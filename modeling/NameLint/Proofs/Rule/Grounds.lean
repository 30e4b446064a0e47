/-
What the two exceptions for variables do.

A variable whose scope has no rule falls back on the rule for all variables, and a name of
one character may be exempted from patterns.  Neither shows in the violations themselves: a
name that lacks its prefix and one that breaks a pattern without a message of its own read
the same.  So the list of violations is taken apart into charges, the symbol with the ground
on which it is bad, from which the violations are read off again (`report_charges`).

What a ground is does not hang on how charges are defined here.  Those that come from entries
are all there is when no prefixes are asked for, and the others are all there is when there
are no rules (`grounds_filter_entries`, `grounds_filter_prefixes`).

Everything is proved of one symbol and carried over to units by `charges_filter_eq`.
-/
import NameLint.Proofs.Rule.Lookups

namespace NameLint

/-- The settings that have no naming rules. -/
def Settings.withoutRules (s : Settings) : Settings :=
  { s with rule := fun _ => none }

namespace Naming

/-! ### Grounds -/

/-- Why a name is bad. -/
inductive Ground where
  /-- It lacks the prefix that its type asks for. -/
  | lackedPrefix
  /-- It is bad by an entry of the rule for it. -/
  | entry (e : PatternEntry)

/-- Whether a ground is an entry of a rule. -/
def Ground.isEntry : Ground → Bool
  | lackedPrefix => false
  | entry _ => true

/-- The violation for a symbol that is bad on a ground. -/
def Ground.violation (severity : Severity) (x : Symbol) : Ground → Violation
  | lackedPrefix => prefixViolation severity x
  | entry e => entryViolation severity x e

/-- The grounds on which a symbol is bad, in order. -/
def grounds (s : Settings) (x : Symbol) : List Ground :=
  ((missingPrefix s x).toList.map fun _ => .lackedPrefix) ++ (firing s x).map .entry

variable {s t : Settings} {x : Symbol}

theorem map_violation_grounds (severity : Severity) (s : Settings) (x : Symbol) :
    (grounds s x).map (Ground.violation severity x) = checkSymbol severity s x := by
  rw [grounds, checkSymbol_eq, List.map_append, List.map_map, List.map_map]
  rfl

theorem filter_isEntry_grounds (s : Settings) (x : Symbol) :
    (grounds s x).filter Ground.isEntry = (firing s x).map .entry := by
  simp [grounds, List.filter_append, List.filter_map, Ground.isEntry, Function.comp_def]

theorem filter_not_isEntry_grounds (s : Settings) (x : Symbol) :
    (grounds s x).filter (fun g => !g.isEntry)
      = (missingPrefix s x).toList.map fun _ => .lackedPrefix := by
  simp [grounds, List.filter_append, List.filter_map, Ground.isEntry, Function.comp_def]

/-- The entries are all the grounds there are if no prefixes are asked for. -/
theorem grounds_filter_entries (s : Settings) (x : Symbol) :
    (grounds s x).filter Ground.isEntry = grounds s.withoutPrefixes x := by
  rw [filter_isEntry_grounds, grounds, missingPrefix_withoutPrefixes, firing_withoutPrefixes]
  rfl

/-- The prefixes are all the grounds there are if there are no rules. -/
theorem grounds_filter_prefixes (s : Settings) (x : Symbol) :
    (grounds s x).filter (fun g => !g.isEntry) = grounds s.withoutRules x := by
  have hmissing : missingPrefix s.withoutRules x = missingPrefix s x := by
    cases x <;> rfl
  have hnone : consulted s.withoutRules x = none := by
    match x with
    | .variable v =>
        rw [consulted]
        split <;> rfl
    | .file _ | .function _ | .class _ | .namespace _ => rfl
  rw [filter_not_isEntry_grounds, grounds, hmissing, firing, hnone]
  simp

/-! ### Names of one character -/

/-- Whether a symbol is a variable with a name of one character. -/
def isOneCharVariable : Symbol → Bool
  | .variable v => v.name.length = 1
  | _ => false

theorem consulted_skip (s : Settings) (x : Symbol) :
    consulted (s.set (.skipOneCharVariables true)) x
      = if isOneCharVariable x then none
        else consulted (s.set (.skipOneCharVariables false)) x := by
  cases x <;> simp [consulted, isOneCharVariable, Settings.set]

/-- The exemption takes all entries from variables with names of one character. -/
theorem grounds_skip (s : Settings) (x : Symbol) :
    grounds (s.set (.skipOneCharVariables true)) x
      = (grounds (s.set (.skipOneCharVariables false)) x).filter
          fun g => !(g.isEntry && isOneCharVariable x) := by
  have hmissing : missingPrefix (s.set (.skipOneCharVariables true)) x
      = missingPrefix (s.set (.skipOneCharVariables false)) x := by
    cases x <;> rfl
  cases hchar : isOneCharVariable x with
  | true =>
      simp only [Bool.and_true]
      rw [filter_not_isEntry_grounds, grounds, hmissing, firing, consulted_skip, hchar]
      simp
  | false =>
      rw [List.filter_eq_self.mpr fun g _ => by simp, grounds, grounds, hmissing, firing, firing,
        consulted_skip, hchar]
      rfl

/-! ### The rule of a scope -/

/-- The keys for variables of one scope. -/
def scopeKeys : List RuleKey :=
  [.globalVariable, .publicMember, .privateMember]

variable {key : RuleKey} {spec : RuleSpec}

/-- A symbol that looks up the key of a scope without a rule has the rule for all variables. -/
theorem consulted_of_unset (hkey : key ∈ scopeKeys) (hunset : s.rule key = none)
    (hx : key ∈ lookups s x) : consulted s x = s.rule .variableName := by
  rw [consulted_eq_findSome?]
  match x with
  | .variable v =>
      rcases eq_of_mem_lookups hx with hown | ⟨rfl, -⟩
      · obtain rfl : key = scopeKey v.scope := hown
        rw [lookups] at hx ⊢
        by_cases hskip : s.skipOneCharVariables ∧ v.name.length = 1
        · simp [hskip] at hx
        · simp [hskip, hunset]
      · exact absurd hkey (by decide)
  | .file _ | .function _ | .class _ | .namespace _ =>
      simp only [lookups, ownKey, List.mem_singleton] at hx
      exact absurd hkey (by rw [hx]; decide)

/-- To give a scope the rule that it falls back on makes no difference. -/
theorem checkSymbol_fallback (hkey : key ∈ scopeKeys) (hunset : s.rule key = none)
    (hspec : s.rule .variableName = some spec) (severity : Severity) (x : Symbol) :
    checkSymbol severity (s.set (.rule key spec)) x = checkSymbol severity s x := by
  have hdiffer := Settings.differOnlyAt_set s key spec
  by_cases hx : key ∈ lookups s x
  · have hfiring : firing (s.set (.rule key spec)) x = firing s x := by
      rw [firing, firing, consulted_set_of_mem hx, consulted_of_unset hkey hunset hx, hspec]
    rw [checkSymbol_eq, checkSymbol_eq, ← missingPrefix_of_differOnlyAt hdiffer, hfiring]
  · exact (checkSymbol_eq_of_not_mem hdiffer hx severity).symm

/-! ### Units -/

/-- What the symbols of a unit are charged with, in order. -/
def charges (s : Settings) (u : CompilationUnit) : List (Symbol × Ground) :=
  u.symbols.flatMap fun x => (grounds s x).map (x, ·)

/-- The violations for charges. -/
def report (severity : Severity) (cs : List (Symbol × Ground)) : List Violation :=
  cs.map fun c => c.2.violation severity c.1

/-- The violations of a unit are those for its charges. -/
theorem report_charges (severity : Severity) (s : Settings) (u : CompilationUnit) :
    report severity (charges s u) = check severity s u := by
  rw [report, charges, List.map_flatMap, check]
  refine List.flatMap_congr fun x _ => ?_
  rw [List.map_map, ← map_violation_grounds]
  rfl

/-- What holds of the grounds of each symbol holds of the charges of a unit. -/
theorem charges_filter_eq {keep : Symbol → Ground → Bool}
    (h : ∀ x, (grounds s x).filter (keep x) = grounds t x) (u : CompilationUnit) :
    ((charges s u).filter fun c => keep c.1 c.2) = charges t u := by
  rw [charges, List.filter_flatMap, charges]
  refine List.flatMap_congr fun x _ => ?_
  rw [List.filter_map, ← h x]
  rfl

/--
**The exceptions for variables do what they say.**  To give a scope without a rule the rule
for all variables makes no difference to the violations.  To exempt names of one character
takes away the charges by entries against variables with such names, of whatever scope, and
leaves all others in their order.

The violations are those for the charges.  The charges by entries are those of which a
check without prefixes reports the violations, and the others those of which a check
without rules does.
-/
theorem fallback_and_exemption_exact (severity : Severity) (s : Settings) (u : CompilationUnit) :
    (∀ key ∈ scopeKeys, ∀ spec,
        s.rule key = none → s.rule .variableName = some spec →
          check severity (s.set (.rule key spec)) u = check severity s u) ∧
      charges (s.set (.skipOneCharVariables true)) u
        = (charges (s.set (.skipOneCharVariables false)) u).filter
            (fun c => !(c.2.isEntry && isOneCharVariable c.1)) ∧
      ∀ r : Settings,
        report severity (charges r u) = check severity r u ∧
          report severity ((charges r u).filter fun c => c.2.isEntry)
            = check severity r.withoutPrefixes u ∧
          report severity ((charges r u).filter fun c => !c.2.isEntry)
            = check severity r.withoutRules u := by
  refine ⟨?_, ?_, fun r => ⟨report_charges severity r u, ?_, ?_⟩⟩
  · intro key hkey spec hunset hspec
    exact List.flatMap_congr fun x _ => checkSymbol_fallback hkey hunset hspec severity x
  · exact (charges_filter_eq (fun x => (grounds_skip s x).symm) u).symm
  · rw [charges_filter_eq (grounds_filter_entries r) u, report_charges]
  · rw [charges_filter_eq (grounds_filter_prefixes r) u, report_charges]

/-- A name of one character that lacks its prefix and breaks the rule, with one text for both. -/
theorem fallback_and_exemption_exact_of_short_names :
    let spec : RuleSpec :=
      ⟨[{ pattern := ⟨"[A-Z]", .seq (.look .textStart) (.chars ⟨[(0x41, 0x5A)]⟩)⟩ }]⟩
    let s : Settings :=
      { rule := fun k => if k = .variableName then some spec else none
        variablePrefixes := .ofList [("uint32_t", "ui32")] }
    let u : CompilationUnit :=
      { vars := [⟨"x", "uint32_t", .function, ⟨"a.c", 2, 7⟩⟩, ⟨"ü", "int", .global, ⟨"a.c", 1, 5⟩⟩,
          ⟨"ab", "int", .global, ⟨"a.c", 1, 9⟩⟩] }
    s.rule .globalVariable = none ∧ s.rule .variableName = some spec ∧
      check .style (s.set (.rule .globalVariable spec)) u = check .style s u ∧
      (check .style s u).map Violation.message
        = ["Variable x violates naming convention", "Variable x violates naming convention",
          "Global variable ü violates naming convention",
          "Global variable ab violates naming convention"] ∧
      (check .style (s.set (.skipOneCharVariables true)) u).map Violation.message
        = ["Variable x violates naming convention",
          "Global variable ab violates naming convention"] := by
  intro spec s u
  obtain ⟨hfallback, hexempt, hreport⟩ := fallback_and_exemption_exact .style s u
  have hsame := hfallback .globalVariable (by decide) spec rfl rfl
  refine ⟨rfl, rfl, hsame, by decide +kernel, ?_⟩
  rw [← (hreport _).1, hexempt]
  decide +kernel

end Naming

end NameLint

/-
Rule keys keep out of each other's way.

Which rules are looked up for a symbol depends on the symbol and, for a variable, on
whether its scope has a rule of its own.  `lookups` lists the keys in the order in which
they are tried, and the rule that counts is the first one found under them.  So settings
that differ under one key find the same in every symbol whose lookups miss that key.

The list is as short as it can be: `mem_lookups_iff` says that a key is on it exactly if
some other rule under that key would change what is found in the symbol.
-/
import Mathlib.Data.List.Basic
import NameLint.Proofs.Config.Locality
import NameLint.Proofs.Rule.Additive

namespace NameLint

/-! ### Settings that differ under one key -/

/-- Settings that agree in everything but the rule under a key. -/
def Settings.DifferOnlyAt (key : RuleKey) (s t : Settings) : Prop :=
  ∀ kind : Config.Key, kind ≠ .rule key → kind.SameAt s t

namespace Settings

variable {key : RuleKey} {s t : Settings}

theorem DifferOnlyAt.rule_eq (h : DifferOnlyAt key s t) {other : RuleKey} (hne : other ≠ key) :
    s.rule other = t.rule other := by
  refine h (.rule other) ?_
  intro heq
  exact hne (Config.Key.rule.inj heq)

theorem DifferOnlyAt.skip_eq (h : DifferOnlyAt key s t) :
    s.skipOneCharVariables = t.skipOneCharVariables :=
  h .skipOneCharVariables (by simp)

theorem differOnlyAt_set (s : Settings) (key : RuleKey) (spec : RuleSpec) :
    DifferOnlyAt key s (s.set (.rule key spec)) := by
  intro kind hkind
  exact (Config.Key.set_sameAt_of_ne s (Ne.symm hkind)).symm

end Settings

/-- Include guards have nothing to do with naming rules. -/
theorem IncludeGuard.check_of_differOnlyAt {key : RuleKey} {s t : Settings}
    (h : s.DifferOnlyAt key t) (severity : Severity) (u : CompilationUnit) :
    check severity s u = check severity t u := by
  have hguard : s.includeGuard = t.includeGuard := h .includeGuard (by simp)
  unfold check
  rw [hguard]

namespace Naming

variable {key : RuleKey} {s t : Settings} {x : Symbol}

/-! ### Keys that are looked up -/

/-- The keys under which a rule for the symbol is looked up, one after another. -/
def lookups (s : Settings) : Symbol → List RuleKey
  | .variable v =>
    if s.skipOneCharVariables ∧ v.name.length = 1 then []
    else if (s.rule (scopeKey v.scope)).isSome then [scopeKey v.scope]
    else [scopeKey v.scope, .variableName]
  | x => [ownKey x]

/-- The rule that counts is the first one that is found. -/
theorem consulted_eq_findSome? (s : Settings) (x : Symbol) :
    consulted s x = (lookups s x).findSome? s.rule := by
  match x with
  | .variable v =>
      rw [consulted_variable, lookups, scopeRule]
      by_cases hskip : s.skipOneCharVariables ∧ v.name.length = 1
      · simp [hskip]
      · cases hrule : s.rule (scopeKey v.scope) <;> simp [hskip, hrule]
  | .file _ | .function _ | .class _ | .namespace _ => simp [consulted, lookups, ownKey]

/-- A symbol looks up its own key, and a variable that of all variables if its scope has no rule. -/
theorem eq_of_mem_lookups (h : key ∈ lookups s x) :
    key = ownKey x ∨ key = .variableName ∧
      ∃ v, x = .variable v ∧ v.scope ≠ .function ∧ s.rule (scopeKey v.scope) = none := by
  match x with
  | .variable v =>
      rw [lookups] at h
      by_cases hskip : s.skipOneCharVariables ∧ v.name.length = 1
      · simp [hskip] at h
      · rw [if_neg hskip] at h
        cases hrule : s.rule (scopeKey v.scope) with
        | some spec =>
            left
            simpa [hrule, ownKey_variable] using h
        | none =>
            have hkey : key = scopeKey v.scope ∨ key = .variableName := by simpa [hrule] using h
            rcases hkey with hown | hall
            · exact Or.inl (hown.trans (ownKey_variable v).symm)
            · by_cases hscope : v.scope = .function
              · left
                rw [hall, ownKey, hscope]
              · exact Or.inr ⟨hall, v, rfl, hscope, hrule⟩
  | .file _ | .function _ | .class _ | .namespace _ =>
      left
      simpa [lookups] using h

/-! ### What a lookup that misses a key leaves the same -/

/-- Whether a key is looked up does not depend on the rule under it. -/
theorem mem_lookups_congr (h : s.DifferOnlyAt key t) (x : Symbol) :
    key ∈ lookups s x ↔ key ∈ lookups t x := by
  match x with
  | .variable v =>
      rw [lookups, lookups, h.skip_eq]
      by_cases hskip : t.skipOneCharVariables ∧ v.name.length = 1
      · simp [hskip]
      · rw [if_neg hskip, if_neg hskip]
        by_cases hscope : scopeKey v.scope = key
        · -- The key of the scope is tried first, whatever is found there.
          have hhead : ∀ r : Settings, key ∈ if (r.rule (scopeKey v.scope)).isSome
              then [scopeKey v.scope] else [scopeKey v.scope, .variableName] := by
            intro r
            split <;> simp [hscope]
          exact iff_of_true (hhead s) (hhead t)
        · rw [h.rule_eq hscope]
  | .file _ | .function _ | .class _ | .namespace _ => rfl

theorem lookups_eq_of_not_mem (h : s.DifferOnlyAt key t) (hx : key ∉ lookups s x) :
    lookups s x = lookups t x := by
  match x with
  | .variable v =>
      rw [lookups] at hx
      rw [lookups, lookups, ← h.skip_eq]
      by_cases hskip : s.skipOneCharVariables ∧ v.name.length = 1
      · rw [if_pos hskip, if_pos hskip]
      · rw [if_neg hskip] at hx ⊢
        rw [if_neg hskip]
        have hscope : scopeKey v.scope ≠ key := by
          intro heq
          split at hx <;> simp [heq] at hx
        rw [h.rule_eq hscope]
  | .file _ | .function _ | .class _ | .namespace _ => rfl

theorem findSome?_congr {α β : Type} {f g : α → Option β} {as : List α}
    (h : ∀ a ∈ as, f a = g a) : as.findSome? f = as.findSome? g := by
  induction as with
  | nil => rfl
  | cons a rest ih =>
      rw [List.findSome?_cons, List.findSome?_cons, h a (by simp),
        ih fun b hb => h b (by simp [hb])]

theorem consulted_eq_of_not_mem (h : s.DifferOnlyAt key t) (hx : key ∉ lookups s x) :
    consulted s x = consulted t x := by
  have hrules : ∀ other ∈ lookups s x, s.rule other = t.rule other := by
    intro other hother
    refine h.rule_eq ?_
    intro heq
    exact hx (heq ▸ hother)
  rw [consulted_eq_findSome?, consulted_eq_findSome?, ← lookups_eq_of_not_mem h hx]
  exact findSome?_congr hrules

theorem missingPrefix_of_differOnlyAt (h : s.DifferOnlyAt key t) (x : Symbol) :
    missingPrefix s x = missingPrefix t x := by
  have hvariables : s.variablePrefixes = t.variablePrefixes := h .variablePrefixes (by simp)
  have hfunctions : s.functionPrefixes = t.functionPrefixes := h .functionPrefixes (by simp)
  cases x <;> simp [missingPrefix, hvariables, hfunctions]

/-- What is found in a symbol does not depend on rules that are not looked up for it. -/
theorem checkSymbol_eq_of_not_mem (h : s.DifferOnlyAt key t) (hx : key ∉ lookups s x)
    (severity : Severity) : checkSymbol severity s x = checkSymbol severity t x := by
  have hfiring : firing s x = firing t x := by
    rw [firing, firing, consulted_eq_of_not_mem h hx]
  rw [checkSymbol_eq, checkSymbol_eq, missingPrefix_of_differOnlyAt h, hfiring]

/-! ### What a lookup of a key lets through -/

/-- An entry by which a given name is bad. -/
def firingEntry (name : String) : PatternEntry where
  pattern := defaultHeaderPattern
  expectedMatch := !defaultHeaderPattern.accepts name

theorem fires_firingEntry (name : String) :
    ((firingEntry name).pattern.accepts name != (firingEntry name).expectedMatch) = true := by
  simp [firingEntry]

/-- A rule put under a key that is looked up is the rule that counts. -/
theorem consulted_set_of_mem (hx : key ∈ lookups s x) (spec : RuleSpec) :
    consulted (s.set (.rule key spec)) x = some spec := by
  match x with
  | .variable v =>
      rw [lookups] at hx
      by_cases hskip : s.skipOneCharVariables ∧ v.name.length = 1
      · simp [hskip] at hx
      · rw [if_neg hskip] at hx
        have hskip' : ¬ ((s.set (.rule key spec)).skipOneCharVariables ∧ v.name.length = 1) := hskip
        rw [consulted_variable, if_neg hskip']
        unfold scopeRule Settings.set
        by_cases hscope : scopeKey v.scope = key
        · simp [hscope]
        · cases hrule : s.rule (scopeKey v.scope) with
          | some own =>
              have hkey : key = scopeKey v.scope := by simpa [hrule] using hx
              exact absurd hkey.symm hscope
          | none =>
              have hkey : key = scopeKey v.scope ∨ key = .variableName := by
                simpa [hrule] using hx
              have hall : key = .variableName := by
                rcases hkey with hown | hall
                · exact absurd hown.symm hscope
                · exact hall
              rw [hall] at hscope ⊢
              simp [hscope, hrule]
  | .file _ | .function _ | .class _ | .namespace _ =>
      simp only [lookups, List.mem_singleton] at hx
      simp [consulted, Settings.set, hx, ownKey]

/-- Some rule under a key that is looked up changes what is found. -/
theorem exists_checkSymbol_ne (hx : key ∈ lookups s x) (severity : Severity) :
    ∃ t, s.DifferOnlyAt key t ∧ checkSymbol severity s x ≠ checkSymbol severity t x := by
  -- One entry more by which the name is bad than there are now.
  let spec : RuleSpec := ⟨List.replicate ((firing s x).length + 1) (firingEntry x.name)⟩
  have hdiffer := Settings.differOnlyAt_set s key spec
  refine ⟨s.set (.rule key spec), hdiffer, ?_⟩
  intro heq
  have hfiring : firing (s.set (.rule key spec)) x = spec.entries := by
    rw [firing, consulted_set_of_mem hx]
    exact List.filter_eq_self.mpr fun e he => by
      rw [List.eq_of_mem_replicate he, fires_firingEntry]
  have hlength := congrArg List.length heq
  rw [checkSymbol_eq, checkSymbol_eq, ← missingPrefix_of_differOnlyAt hdiffer, hfiring] at hlength
  simp [spec] at hlength

/-- **A key is looked up for a symbol exactly if the rule under it has a say in what is found.** -/
theorem mem_lookups_iff (severity : Severity) (s : Settings) (x : Symbol) (key : RuleKey) :
    key ∈ lookups s x ↔
      ∃ t, s.DifferOnlyAt key t ∧ checkSymbol severity s x ≠ checkSymbol severity t x := by
  constructor
  · intro hx
    exact exists_checkSymbol_ne hx severity
  · rintro ⟨t, hdiffer, hne⟩
    by_cases hx : key ∈ lookups s x
    · exact hx
    · exact absurd (checkSymbol_eq_of_not_mem hdiffer hx severity) hne

/-! ### Units -/

/-- What is wrong with the names of a unit, each violation with the symbol it is about. -/
def findings (severity : Severity) (s : Settings) (u : CompilationUnit) :
    List (Symbol × Violation) :=
  u.symbols.flatMap fun x => (checkSymbol severity s x).map (x, ·)

theorem map_snd_findings (severity : Severity) (s : Settings) (u : CompilationUnit) :
    (findings severity s u).map Prod.snd = check severity s u := by
  simp [findings, check, List.map_flatMap, Function.comp_def]

/-- The findings about some of the symbols are those that these symbols have by themselves. -/
theorem filter_findings (severity : Severity) (s : Settings) (u : CompilationUnit)
    (keep : Symbol → Bool) : (findings severity s u).filter (fun f => keep f.1)
      = (u.symbols.filter keep).flatMap fun x => (checkSymbol severity s x).map (x, ·) := by
  unfold findings
  induction u.symbols with
  | nil => rfl
  | cons x rest ih =>
      rw [List.flatMap_cons, List.filter_append, ih, List.filter_map]
      have hconst : ((fun f : Symbol × Violation => keep f.1) ∘ (x, ·)) = fun _ => keep x := rfl
      rw [hconst]
      by_cases hx : keep x = true <;> simp [hx]

/--
**Rules under different keys do not interfere.**  Settings that differ under one key have
the same findings, in the same order, about all symbols for which that key is not looked
up, and the same violations about include guards.  A key is looked up exactly if the rule
under it has a say in what is found, and that is the key for the kind of the symbol; the
key for all variables comes in only for a variable whose scope has no rule of its own.
-/
theorem findings_eq_of_differOnlyAt {key : RuleKey} {s t : Settings}
    (h : s.DifferOnlyAt key t) (severity : Severity) (u : CompilationUnit) :
    (∀ r : Settings, (findings severity r u).map Prod.snd = check severity r u) ∧
      (findings severity s u).filter (fun f => key ∉ lookups s f.1)
        = (findings severity t u).filter (fun f => key ∉ lookups t f.1) ∧
      IncludeGuard.check severity s u = IncludeGuard.check severity t u ∧
      ∀ (r : Settings) (x : Symbol) (k : RuleKey),
        (k ∈ lookups r x ↔
          ∃ r', r.DifferOnlyAt k r' ∧ checkSymbol severity r x ≠ checkSymbol severity r' x) ∧
        (k ∈ lookups r x → k = ownKey x ∨ k = .variableName ∧
          ∃ v, x = .variable v ∧ v.scope ≠ .function ∧ r.rule (scopeKey v.scope) = none) := by
  refine ⟨fun r => map_snd_findings severity r u, ?_,
    IncludeGuard.check_of_differOnlyAt h severity u,
    fun r x k => ⟨mem_lookups_iff severity r x k, eq_of_mem_lookups⟩⟩
  have hmissed : (fun x => decide (key ∉ lookups s x)) = fun x => decide (key ∉ lookups t x) := by
    funext x
    simp only [mem_lookups_congr h x]
  rw [filter_findings severity s u (fun x => decide (key ∉ lookups s x)),
    filter_findings severity t u (fun x => decide (key ∉ lookups t x)), ← hmissed]
  refine List.flatMap_congr fun x hx => ?_
  have hmiss : key ∉ lookups s x := of_decide_eq_true (List.mem_filter.mp hx).2
  rw [checkSymbol_eq_of_not_mem h hmiss]

/-- A rule for all variables is of no account for a global variable with a rule of its own. -/
theorem findings_eq_of_differOnlyAt_of_global_rule :
    let s : Settings :=
      { rule := fun k => if k = .globalVariable then some {} else none
        variablePrefixes := .ofList [("int", "i")] }
    let t := s.set (.rule .variableName ⟨[firingEntry "local"]⟩)
    let u : CompilationUnit :=
      { vars := [⟨"total", "int", .global, ⟨"a.c", 1, 5⟩⟩,
          ⟨"local", "", .function, ⟨"a.c", 2, 7⟩⟩] }
    s.DifferOnlyAt .variableName t ∧
      (findings .style s u).filter (fun f => .variableName ∉ lookups s f.1)
        = (findings .style t u).filter (fun f => .variableName ∉ lookups t f.1) ∧
      ((findings .style s u).filter fun f => .variableName ∉ lookups s f.1).map Prod.snd
        = [⟨violationId, .style, ⟨"a.c", 1, 5⟩,
          "Global variable total violates naming convention"⟩] := by
  intro s t u
  have hdiffer : s.DifferOnlyAt .variableName t := Settings.differOnlyAt_set s _ _
  exact ⟨hdiffer, (findings_eq_of_differOnlyAt hdiffer .style u).2.1, by decide +kernel⟩

end Naming

end NameLint

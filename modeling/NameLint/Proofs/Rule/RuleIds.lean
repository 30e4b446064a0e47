/-
Every rule speaks for itself.

What rules find is put together rule by rule, and no rule sees what another one has found:
lists of rules one after the other give their reports one after the other.  Every violation
carries an id of its rule and the severity that the rule is set to; this is all that is
asked of a rule (`Rule.check_own`), and it is shown once for each kind.

Since no id belongs to two kinds, the violations of a kind can be picked out of a report by
their ids.  They are the report of the rules of that kind, whatever other rules were run in
between (`filter_analyze`).
-/
import NameLint.Proofs.Rule.GuardVerdict

namespace NameLint

variable {s : Settings} {u : CompilationUnit} {v : Violation}

/-! ### What a rule puts on its violations -/

namespace Naming

theorem check_own {severity : Severity} (h : v ∈ check severity s u) :
    v.ruleId = violationId ∧ v.severity = severity := by
  obtain ⟨x, -, hx⟩ := List.mem_flatMap.mp h
  obtain ⟨message, -, rfl⟩ := List.mem_map.mp hx
  exact ⟨rfl, rfl⟩

end Naming

namespace IncludeGuard

variable {policy : GuardPolicy} {severity : Severity} {f : SourceFile}

theorem fault_own (h : Fault policy severity f v) :
    v.ruleId ∈ [missingId, nameId, invalidId] ∧ v.severity = severity := by
  cases h with
  | missing => exact ⟨List.mem_of_elem_eq_true rfl, rfl⟩
  | invalid => exact ⟨List.mem_of_elem_eq_true rfl, rfl⟩
  | misnamed => exact ⟨List.mem_of_elem_eq_true rfl, rfl⟩

theorem check_own (h : v ∈ check severity s u) :
    v.ruleId ∈ [missingId, nameId, invalidId] ∧ v.severity = severity := by
  unfold check at h
  cases hpolicy : s.includeGuard with
  | none =>
      rw [hpolicy] at h
      exact absurd h List.not_mem_nil
  | some policy =>
      rw [hpolicy] at h
      obtain ⟨f, -, hf⟩ := List.mem_filterMap.mp h
      exact fault_own (checkFile_eq_some_iff.mp hf)

end IncludeGuard

/-- A violation has an id of the rule that found it, and the severity of that rule. -/
theorem Rule.check_own {r : Rule} (h : v ∈ r.check s u) :
    v.ruleId ∈ r.kind.ids ∧ v.severity = r.severity := by
  obtain ⟨kind, severity⟩ := r
  cases kind with
  | naming =>
      obtain ⟨hid, hseverity⟩ := Naming.check_own h
      exact ⟨List.mem_singleton.mpr hid, hseverity⟩
  | includeGuard => exact IncludeGuard.check_own h

/-! ### Lists of rules -/

theorem analyze_append (first second : List Rule) (s : Settings) (u : CompilationUnit) :
    analyze (first ++ second) s u
      = (analyze first s u).extend (analyze second s u).violations := by
  rw [analyze, List.flatMap_append]
  rfl

@[simp]
theorem violations_analyze_cons (r : Rule) (rules : List Rule) :
    (analyze (r :: rules) s u).violations = r.check s u ++ (analyze rules s u).violations := by
  rw [analyze, List.flatMap_cons]
  rfl

@[simp]
theorem violations_analyze_single (r : Rule) : (analyze [r] s u).violations = r.check s u :=
  List.append_nil _

/-- No id belongs to two kinds of rules. -/
theorem RuleKind.ids_disjoint {kind other : RuleKind} {id : String} (h : id ∈ kind.ids)
    (hother : id ∈ other.ids) : kind = other := by
  have hdisjoint : ∀ id ∈ naming.ids, id ∉ includeGuard.ids := by decide
  cases kind <;> cases other
  · rfl
  · exact absurd hother (hdisjoint id h)
  · exact absurd h (hdisjoint id hother)
  · rfl

/-- Of one rule, either all violations have an id of a kind or none has. -/
theorem Rule.filter_check (r : Rule) (kind : RuleKind) :
    (r.check s u).filter (fun v => v.ruleId ∈ kind.ids)
      = if r.kind = kind then r.check s u else [] := by
  by_cases hkind : r.kind = kind
  · rw [if_pos hkind, List.filter_eq_self]
    intro v hv
    exact decide_eq_true (hkind ▸ (Rule.check_own hv).1)
  · rw [if_neg hkind, List.filter_eq_nil_iff]
    intro v hv hid
    exact hkind (RuleKind.ids_disjoint (Rule.check_own hv).1 (of_decide_eq_true hid))

/-- The violations of a kind are what the rules of that kind report. -/
theorem filter_analyze (rules : List Rule) (kind : RuleKind) :
    (analyze rules s u).violations.filter (fun v => v.ruleId ∈ kind.ids)
      = (analyze (rules.filter fun r => r.kind = kind) s u).violations := by
  induction rules with
  | nil => rfl
  | cons r rest ih =>
      rw [violations_analyze_cons, List.filter_append, ih, Rule.filter_check, List.filter_cons]
      by_cases hkind : r.kind = kind
      · rw [if_pos hkind, if_pos (decide_eq_true hkind), violations_analyze_cons]
      · rw [if_neg hkind, if_neg (by simpa using hkind), List.nil_append]

/--
**Rules add up and keep to their own ids.**  Lists of rules, with whatever severities and
repetitions, report one after the other.  What a rule reports has ids and the severity of
that rule; violations with the ids of a kind are what the rules of the kind report by
themselves.  So all rules report what the rule for names does and then violations of include
guards only, and the id of the rule for names picks its own report out again.
-/
theorem analyze_rule_by_rule (s : Settings) (u : CompilationUnit) :
    (∀ first second : List Rule, analyze (first ++ second) s u
        = (analyze first s u).extend (analyze second s u).violations) ∧
      (∀ r : Rule, ∀ v ∈ (analyze [r] s u).violations,
        v.ruleId ∈ r.kind.ids ∧ v.severity = r.severity) ∧
      (∀ rules : List Rule, ∀ kind : RuleKind,
        (analyze rules s u).violations.filter (fun v => v.ruleId ∈ kind.ids)
          = (analyze (rules.filter fun r => r.kind = kind) s u).violations) ∧
      (analyze Preset.all.rules s u
          = (analyze Preset.naming.rules s u).extend (IncludeGuard.check .style s u) ∧
        ∀ v ∈ IncludeGuard.check .style s u, v.ruleId ∈ RuleKind.includeGuard.ids) ∧
      (analyze Preset.all.rules s u).violations.filter (fun v => v.ruleId = Naming.violationId)
        = (analyze Preset.naming.rules s u).violations := by
  refine ⟨fun first second => analyze_append first second s u, ?_,
    fun rules kind => filter_analyze rules kind, ?_, ?_⟩
  · intro r v hv
    rw [violations_analyze_single] at hv
    exact Rule.check_own hv
  · have hguards : (analyze [{ kind := .includeGuard }] s u).violations
        = IncludeGuard.check .style s u := violations_analyze_single _
    refine ⟨?_, fun v hv => (IncludeGuard.check_own hv).1⟩
    rw [← hguards]
    exact analyze_append [{ kind := .naming }] [{ kind := .includeGuard }] s u
  · have hids : ∀ v : Violation, v.ruleId ∈ RuleKind.naming.ids ↔ v.ruleId = Naming.violationId :=
      fun v => List.mem_singleton
    simp only [← hids]
    exact filter_analyze Preset.all.rules .naming

end NameLint

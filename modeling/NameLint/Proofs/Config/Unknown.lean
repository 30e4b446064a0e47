/-
Keys that are not known.

An unknown key of a document is reported once, whatever stands under it.  The options of
include guards have their names looked at only if they are not null, so an unknown option
is reported once unless it is null.  Nothing else is more than a matter of style:
`unknown_keys_reported` says which errors a document has, down to their order.
-/
import NameLint.Proofs.Config.Locality
import NameLint.Proofs.Config.Schema

namespace NameLint

/-- The key that a diagnostic says is not known. -/
def Diagnostic.unknown? : Diagnostic → Option String
  | unknownKey key => some key
  | _ => none

/-- The keys that diagnostics say are not known, in order. -/
def unknownKeys (ds : List Diagnostic) : List String :=
  ds.filterMap Diagnostic.unknown?

theorem Diagnostic.reaches_error_iff (d : Diagnostic) :
    d.severity.reaches .error = true ↔ d.unknown? ≠ none := by
  cases d with
  | unknownKey key => exact iff_of_true rfl (Option.some_ne_none key)
  | _ => exact iff_of_false Bool.false_ne_true fun h => h rfl

/-- What is wrong is an error exactly if some key is said not to be known. -/
theorem Validation.reaches_error_iff (v : Validation) :
    v.reaches .error = true ↔ unknownKeys v.diagnostics ≠ [] := by
  rw [reaches, List.any_eq_true, unknownKeys, ne_eq, List.filterMap_eq_nil_iff]
  simp only [Diagnostic.reaches_error_iff, not_forall, exists_prop, ne_eq]

theorem unknownKeys_eq_nil_of_style {ds : List Diagnostic} (h : ∀ d ∈ ds, d.severity = .style) :
    unknownKeys ds = [] := by
  refine List.filterMap_eq_nil_iff.mpr fun d hd => ?_
  have hstyle := h d hd
  cases d with
  | unknownKey key => cases hstyle
  | _ => rfl

namespace Config

open Checked

/-! ### Options -/

/-- The full keys that an option of include guards is reported for: none or its own. -/
def reportedOption : String × Json → List String
  | (_, .null) => []
  | (option, _) => if IsKnownOption option then [] else ["include_guard." ++ option]

theorem reportedOption_of_known {o : String × Json} (h : IsKnownOption o.1) :
    reportedOption o = [] := by
  unfold reportedOption
  split
  · rfl
  · exact if_pos h

theorem reportedOption_of_unknown {o : String × Json} (h : ¬ IsKnownOption o.1)
    (hset : o.2 ≠ .null) : reportedOption o = ["include_guard." ++ o.1] := by
  unfold reportedOption
  split
  · exact absurd rfl hset
  · exact if_neg h

theorem readOption_of_unknown {option : String} (h : ¬ IsKnownOption option) (key : String)
    (value : Json) : readOption option key value = .defect (.unknownKey key) := by
  have hcomment : ¬ isComment option = true := fun hcomment => h (Or.inr hcomment)
  unfold readOption
  split
  case h_8 => rw [if_neg hcomment]
  all_goals exact absurd (Or.inl (by decide)) h

theorem unknownKeys_readGuardEntry (o : String × Json) :
    unknownKeys (readGuardEntry "include_guard" o).diagnostics = reportedOption o := by
  by_cases hnull : o.2 = .null
  · obtain ⟨option, value⟩ := o
    obtain rfl : value = .null := hnull
    rfl
  · rw [readGuardEntry_of_set hnull]
    by_cases hknown : IsKnownOption o.1
    · obtain ⟨p, hjudges⟩ := exists_readOption_judges hknown ("include_guard." ++ o.1) o.2
      have hstyle := unknownKeys_eq_nil_of_style hjudges.severity_eq
      rw [reportedOption_of_known hknown]
      exact hstyle
    · rw [readOption_of_unknown hknown, reportedOption_of_unknown hknown hnull]
      rfl

/-! ### Entries -/

/-- The keys that an entry of a document is reported for. -/
def reportedKeys : String × Json → List String
  | ("include_guard", .dict options) => options.flatMap reportedOption
  | (key, _) => if IsKnown key then [] else [key]

theorem isKnown_includeGuard : IsKnown "include_guard" :=
  ⟨.includeGuard, rfl⟩

/-- Only a dictionary under the key of the include guards has options to report. -/
theorem reportedKeys_of_known {e : String × Json} (h : IsKnown e.1)
    (hother : ∀ options, e ≠ ("include_guard", .dict options)) : reportedKeys e = [] := by
  unfold reportedKeys
  split
  · exact absurd rfl (hother _)
  · exact if_pos h

theorem reportedKeys_of_unknown {e : String × Json} (h : ¬ IsKnown e.1) :
    reportedKeys e = [e.1] := by
  unfold reportedKeys
  split
  · exact absurd isKnown_includeGuard h
  · exact if_neg h

theorem unknownKeys_readGuard (value : Json) :
    unknownKeys (readGuard "include_guard" value).diagnostics
      = reportedKeys ("include_guard", value) := by
  cases value with
  | dict options =>
      have hread : (readGuard "include_guard" (.dict options)).diagnostics
          = (gather (options.map (readGuardEntry "include_guard"))).diagnostics :=
        diagnostics_map _ _
      rw [hread, diagnostics_gather, List.flatMap_map, unknownKeys, List.filterMap_flatMap]
      exact List.flatMap_congr fun o _ => unknownKeys_readGuardEntry o
  | _ =>
      rw [reportedKeys_of_known isKnown_includeGuard (by simp)]
      rfl

/-- The keys apart from include guards have no options. -/
theorem Key.read_severity {kind : Key} (h : kind ≠ .includeGuard) (key : String) (value : Json) :
    ∀ d ∈ (kind.read key value).diagnostics, d.severity = .style := by
  cases kind with
  | rule k =>
      rw [Key.read, diagnostics_map]
      exact (readRule_judges key value).severity_eq
  | variablePrefixes =>
      rw [Key.read, diagnostics_map]
      exact (readPrefixes_judges key value).severity_eq
  | functionPrefixes =>
      rw [Key.read, diagnostics_map]
      exact (readPrefixes_judges key value).severity_eq
  | includeGuard => exact absurd rfl h
  | skipOneCharVariables =>
      rw [Key.read, diagnostics_map]
      exact (truth_judges key value).severity_eq
  | comment =>
      intro d hd
      cases hd

theorem unknownKeys_readEntry (e : String × Json) :
    unknownKeys (readEntry e).diagnostics = reportedKeys e := by
  by_cases hknown : IsKnown e.1
  · obtain ⟨kind, hkey⟩ := hknown
    by_cases hnull : e.2 = .null
    · rw [readEntry_of_null hkey hnull, reportedKeys_of_known ⟨kind, hkey⟩]
      · rfl
      · rintro options rfl
        cases hnull
    · rw [readEntry_of_set hkey hnull]
      by_cases hkind : kind = .includeGuard
      · subst hkind
        obtain ⟨key, value⟩ := e
        obtain rfl : key = "include_guard" := hkey
        rw [Key.read, diagnostics_map]
        exact unknownKeys_readGuard value
      · rw [reportedKeys_of_known ⟨kind, hkey⟩]
        · exact unknownKeys_eq_nil_of_style (Key.read_severity hkind e.1 e.2)
        · rintro options rfl
          exact hkind (Key.eq_of_isSpelled hkey rfl)
  · rw [reportedKeys_of_unknown hknown, readEntry, Key.ofText?_eq_none_iff.mpr hknown]
    rfl

/-! ### Documents -/

theorem unknownKeys_validate (document : Document) :
    unknownKeys (validate document).diagnostics = document.flatMap reportedKeys := by
  rw [validate_diagnostics, unknownKeys, List.filterMap_flatMap]
  refine List.flatMap_congr fun e _ => ?_
  rw [validate_singleton_diagnostics]
  exact unknownKeys_readEntry e

theorem reportedOption_ne_nil_iff (o : String × Json) :
    reportedOption o ≠ [] ↔ ¬ IsKnownOption o.1 ∧ o.2 ≠ .null := by
  constructor
  · intro h
    refine ⟨fun hknown => h (reportedOption_of_known hknown), fun hnull => h ?_⟩
    obtain ⟨option, value⟩ := o
    obtain rfl : value = .null := hnull
    rfl
  · rintro ⟨hunknown, hset⟩
    rw [reportedOption_of_unknown hunknown hset]
    exact List.cons_ne_nil _ _

theorem reportedKeys_ne_nil_iff (e : String × Json) :
    reportedKeys e ≠ [] ↔ ¬ IsKnown e.1 ∨
      ∃ options, e = ("include_guard", .dict options) ∧
        ∃ o ∈ options, ¬ IsKnownOption o.1 ∧ o.2 ≠ .null := by
  by_cases hknown : IsKnown e.1
  · by_cases hguard : ∃ options, e = ("include_guard", .dict options)
    · obtain ⟨options, rfl⟩ := hguard
      simp [reportedKeys, hknown, ← reportedOption_ne_nil_iff]
    · have hnil := reportedKeys_of_known hknown fun options he => hguard ⟨options, he⟩
      refine iff_of_false (fun h => h hnil) ?_
      rintro (hunknown | ⟨options, he, -⟩)
      · exact hunknown hknown
      · exact hguard ⟨options, he⟩
  · rw [reportedKeys_of_unknown hknown]
    exact iff_of_true (List.cons_ne_nil _ _) (Or.inl hknown)

/--
**Unknown keys are reported, and nothing else is an error.**  Of each entry of a document
the unknown key is reported once, whatever its value; of include guards each unknown
option is reported once under its full key, unless it is null.  There is an error exactly
if there is such a key or such an option.
-/
theorem unknown_keys_reported (document : Document) :
    unknownKeys (validate document).diagnostics = document.flatMap reportedKeys ∧
      ((validate document).reaches .error = true ↔
        (∃ e ∈ document, ¬ IsKnown e.1) ∨
          ∃ options, ("include_guard", .dict options) ∈ document ∧
            ∃ o ∈ options, ¬ IsKnownOption o.1 ∧ o.2 ≠ .null) := by
  refine ⟨unknownKeys_validate document, ?_⟩
  have hreaches : (validate document).reaches .error = true ↔
      ∃ e ∈ document, reportedKeys e ≠ [] := by
    rw [Validation.reaches_error_iff, unknownKeys_validate, ne_eq, List.flatMap_eq_nil_iff]
    simp only [not_forall, exists_prop, ne_eq]
  rw [hreaches]
  constructor
  · rintro ⟨e, he, hreported⟩
    rcases (reportedKeys_ne_nil_iff e).mp hreported with hunknown | ⟨options, rfl, hoption⟩
    · exact Or.inl ⟨e, he, hunknown⟩
    · exact Or.inr ⟨options, he, hoption⟩
  · rintro (⟨e, he, hunknown⟩ | ⟨options, he, hoption⟩)
    · exact ⟨e, he, (reportedKeys_ne_nil_iff e).mpr (Or.inl hunknown)⟩
    · exact ⟨_, he, (reportedKeys_ne_nil_iff _).mpr (Or.inr ⟨options, rfl, hoption⟩)⟩

/-- An unknown option goes unnoticed if it is null, an unknown key does not. -/
theorem null_option_unreported :
    let guarded : Document := [("include_guard", .dict [("colour", .null)])]
    ¬ IsKnownOption "colour" ∧ (validate guarded).diagnostics = [] ∧
      (validate guarded).reaches .error = false ∧
      (validate [("colour", .null)]).diagnostics = [.unknownKey "colour"] :=
  ⟨by decide, by rw [validate_eq]; rfl, by rw [validate_eq]; rfl, rfl⟩

end Config

end NameLint

/-
One verdict for each file.

A file that is no header, or whose lines are not known, is passed over.  For every other
file there are five cases, told apart by what the scanner finds and by what the policy
asks for: two in which nothing is reported (`Clean`), and three in which one violation is
(`Fault`).  `checkFile_eq_none_iff` and `checkFile_eq_some_iff` say that these are all
cases and that no two of them overlap.

The place of a violation is where the reader of the header will look: the sign of the
directive that is not valid, or the word that should be another one.
-/
import Mathlib.Data.List.Basic
import NameLint.Proofs.Guard.Places
import NameLint.Proofs.Rule.Additive

namespace NameLint.IncludeGuard

open Guard (scan StandsIn)

variable {policy : GuardPolicy} {severity : Severity} {f : SourceFile}

/-! ### Cases -/

/-- That a file is one of those that have guards, and that its lines are known. -/
def IsHeader (policy : GuardPolicy) (f : SourceFile) (lines : List String) : Prop :=
  policy.appliesTo f.baseName = true ∧ f.lines = some lines

/-- That there is nothing to report about the guard of a file. -/
inductive Clean (policy : GuardPolicy) (f : SourceFile) : Prop
  /-- It is no header. -/
  | other (h : policy.appliesTo f.baseName = false)
  /-- Nobody knows what it holds. -/
  | unknown (h : f.lines = none)
  /-- It has no guard and needs none. -/
  | optional {lines : List String} (h : f.lines = some lines)
      (hscan : scan lines policy.lineLimit = .missing) (hrequired : policy.required = false)
  /-- Its guard has the name that is expected. -/
  | named {lines : List String} {token : List Char} {line column : Nat} (h : f.lines = some lines)
      (hscan : scan lines policy.lineLimit = .found token line column)
      (hname : String.ofList token = policy.expectedGuard f.path)

/-- What there is to report about the guard of a file. -/
inductive Fault (policy : GuardPolicy) (severity : Severity) (f : SourceFile) : Violation → Prop
  /-- It has no guard; this is said of the file as a whole. -/
  | missing {lines : List String} (h : IsHeader policy f lines)
      (hscan : scan lines policy.lineLimit = .missing) (hrequired : policy.required = true) :
      Fault policy severity f ⟨missingId, severity, ⟨f.path, 0, 0⟩, "Missing include guard"⟩
  /-- Its guard is not valid; this is said of the sign of the directive. -/
  | invalid {lines : List String} {line column : Nat} (h : IsHeader policy f lines)
      (hscan : scan lines policy.lineLimit = .invalid line column)
      (hplace : StandsIn lines policy.lineLimit line column ['#']) :
      Fault policy severity f
        ⟨invalidId, severity, ⟨f.path, line, column⟩, "Invalid #ifndef directive"⟩
  /-- Its guard has another name than is expected; this is said of the name. -/
  | misnamed {lines : List String} {token : List Char} {line column : Nat}
      (h : IsHeader policy f lines)
      (hscan : scan lines policy.lineLimit = .found token line column)
      (hplace : StandsIn lines policy.lineLimit line column token)
      (hname : String.ofList token ≠ policy.expectedGuard f.path) :
      Fault policy severity f ⟨nameId, severity, ⟨f.path, line, column⟩,
        "include guard naming violation; " ++ String.ofList token ++ " != "
          ++ policy.expectedGuard f.path⟩

/-! ### One file -/

theorem checkFile_of_isHeader {lines : List String} (h : IsHeader policy f lines) :
    checkFile policy severity f
      = verdict policy severity f.path (scan lines policy.lineLimit) := by
  obtain ⟨happlies, hlines⟩ := h
  rw [checkFile, if_pos happlies, hlines]
  rfl

/-- A file that is no header with known lines is clean, and nothing is reported about it. -/
theorem clean_of_not_isHeader (h : ∀ lines, ¬ IsHeader policy f lines) :
    Clean policy f ∧ checkFile policy severity f = none := by
  by_cases happlies : policy.appliesTo f.baseName = true
  · cases hlines : f.lines with
    | some lines => exact absurd ⟨happlies, hlines⟩ (h lines)
    | none => exact ⟨.unknown hlines, by simp [checkFile, hlines]⟩
  · exact ⟨.other (by simpa using happlies), if_neg happlies⟩

/-- **Every file is clean or has a fault, and what is reported is the fault.** -/
theorem clean_or_fault (policy : GuardPolicy) (severity : Severity) (f : SourceFile) :
    (Clean policy f ∧ checkFile policy severity f = none) ∨
      ∃ v, Fault policy severity f v ∧ checkFile policy severity f = some v := by
  by_cases hheader : ∃ lines, IsHeader policy f lines
  · obtain ⟨lines, h⟩ := hheader
    rw [checkFile_of_isHeader h]
    cases hscan : scan lines policy.lineLimit with
    | missing =>
        by_cases hrequired : policy.required = true
        · exact Or.inr ⟨_, .missing h hscan hrequired, if_pos hrequired⟩
        · exact Or.inl ⟨.optional h.2 hscan (by simpa using hrequired), if_neg hrequired⟩
    | invalid line column => exact Or.inr ⟨_, .invalid h hscan (Guard.scan_invalid hscan), rfl⟩
    | found token line column =>
        by_cases hname : String.ofList token = policy.expectedGuard f.path
        · exact Or.inl ⟨.named h.2 hscan hname, if_pos hname⟩
        · exact Or.inr ⟨_, .misnamed h hscan (Guard.scan_found hscan).2 hname, if_neg hname⟩
  · exact Or.inl (clean_of_not_isHeader fun lines h => hheader ⟨lines, h⟩)

/-- A file with a fault is not clean. -/
theorem not_clean_of_fault {v : Violation} (h : Fault policy severity f v) : ¬ Clean policy f := by
  intro hclean
  cases hclean with
  | other happlies =>
      cases h with
      | _ h => simp_all [IsHeader]
  | _ => cases h <;> simp_all [IsHeader]

/-- A file has one fault at most. -/
theorem fault_unique {v w : Violation} (hv : Fault policy severity f v)
    (hw : Fault policy severity f w) : v = w := by
  cases hv <;> cases hw <;> simp_all [IsHeader]

theorem checkFile_eq_none_iff : checkFile policy severity f = none ↔ Clean policy f := by
  rcases clean_or_fault policy severity f with ⟨hclean, hnone⟩ | ⟨v, hfault, hsome⟩
  · exact iff_of_true hnone hclean
  · exact iff_of_false (by simp [hsome]) (not_clean_of_fault hfault)

theorem checkFile_eq_some_iff {v : Violation} :
    checkFile policy severity f = some v ↔ Fault policy severity f v := by
  rcases clean_or_fault policy severity f with ⟨hclean, hnone⟩ | ⟨w, hfault, hsome⟩
  · exact iff_of_false (by simp [hnone]) fun hv => not_clean_of_fault hv hclean
  · rw [hsome, Option.some.injEq]
    constructor
    · intro hwv
      exact hwv ▸ hfault
    · exact fault_unique hfault

/-- A violation is about the file in which it was found. -/
theorem file_of_fault {v : Violation} (h : Fault policy severity f v) :
    v.location.file = f.path := by
  cases h <;> rfl

/-- Not to require a guard is to say nothing of missing ones. -/
theorem verdict_optional (policy : GuardPolicy) (severity : Severity) (path : Path)
    (found : Guard.Scan) : verdict { policy with required := false } severity path found
      = (verdict { policy with required := true } severity path found).filter
        fun v => v.ruleId ≠ missingId := by
  cases found with
  | missing => simp [verdict, Option.filter_some]
  | invalid line column =>
      have hid : invalidId ≠ missingId := by decide
      simp [verdict, Option.filter_some, hid]
  | found token line column =>
      have hid : nameId ≠ missingId := by decide
      by_cases hname : String.ofList token = policy.expectedGuard path
      · have hnone : ∀ required : Bool, verdict { policy with required := required } severity path
            (.found token line column) = none := fun _ => if_pos hname
        rw [hnone, hnone]
        rfl
      · have hsome : ∀ required : Bool, verdict { policy with required := required } severity path
            (.found token line column) = some ⟨nameId, severity, ⟨path, line, column⟩,
              "include guard naming violation; " ++ String.ofList token ++ " != "
                ++ policy.expectedGuard path⟩ := fun _ => if_neg hname
        rw [hsome, hsome]
        simp [Option.filter_some, hid]

theorem checkFile_optional (policy : GuardPolicy) (severity : Severity) (f : SourceFile) :
    checkFile { policy with required := false } severity f
      = (checkFile { policy with required := true } severity f).filter
        fun v => v.ruleId ≠ missingId := by
  by_cases hheader : ∃ lines, IsHeader policy f lines
  · obtain ⟨lines, h⟩ := hheader
    have hfalse : IsHeader { policy with required := false } f lines := h
    have htrue : IsHeader { policy with required := true } f lines := h
    rw [checkFile_of_isHeader hfalse, checkFile_of_isHeader htrue]
    exact verdict_optional policy severity f.path _
  · have hnone : ∀ required : Bool,
        checkFile { policy with required := required } severity f = none := by
      intro required
      have hother : ∀ lines, ¬ IsHeader { policy with required := required } f lines :=
        fun lines h => hheader ⟨lines, h⟩
      exact (clean_of_not_isHeader hother).2
    rw [hnone, hnone]
    rfl

/-! ### Units -/

theorem check_eq_filterMap (policy : GuardPolicy) (severity : Severity) (s : Settings)
    (u : CompilationUnit) : check severity (s.set (.includeGuard policy)) u
      = u.files.filterMap (checkFile policy severity) :=
  rfl

theorem check_single_file (policy : GuardPolicy) (severity : Severity) (s : Settings)
    (f : SourceFile) : check severity (s.set (.includeGuard policy)) { files := [f] }
      = (checkFile policy severity f).toList := by
  rw [check_eq_filterMap]
  cases h : checkFile policy severity f <;> simp [h]

/-- The files of the violations are some of the files, in their order. -/
theorem files_sublist (policy : GuardPolicy) (severity : Severity) (files : List SourceFile) :
    ((files.filterMap (checkFile policy severity)).map (·.location.file)).Sublist
      (files.map (·.path)) := by
  induction files with
  | nil => exact List.Sublist.slnil
  | cons f rest ih =>
      cases hcheck : checkFile policy severity f with
      | none =>
          rw [List.filterMap_cons_none hcheck]
          exact ih.cons _
      | some v =>
          have hfile := file_of_fault (checkFile_eq_some_iff.mp hcheck)
          rw [List.filterMap_cons_some hcheck, List.map_cons, List.map_cons, hfile]
          exact ih.cons_cons _

/--
**Every file gets one verdict.**  The violations stand in the order of the files, at most
one for each; a file has none exactly if it is clean, and one exactly if that is its
fault.  Policies that differ in nothing but whether a guard is required differ in the
violations for missing guards and in no others.
-/
theorem check_one_verdict (policy : GuardPolicy) (severity : Severity) (s : Settings)
    (u : CompilationUnit) :
    let report := fun (p : GuardPolicy) => check severity (s.set (.includeGuard p))
    report policy u = u.files.flatMap (fun f => report policy { files := [f] }) ∧
      ((report policy u).map (·.location.file)).Sublist (u.files.map (·.path)) ∧
      (∀ f : SourceFile, (report policy { files := [f] }).length ≤ 1 ∧
        (report policy { files := [f] } = [] ↔ Clean policy f) ∧
        ∀ v, report policy { files := [f] } = [v] ↔ Fault policy severity f v) ∧
      (report { policy with required := true } u).filter (fun v => v.ruleId ≠ missingId)
        = report { policy with required := false } u := by
  intro report
  refine ⟨?_, files_sublist policy severity u.files, fun f => ?_, ?_⟩
  · show u.files.filterMap _ = u.files.flatMap fun f => check severity _ { files := [f] }
    simp only [check_single_file]
    exact List.filterMap_eq_flatMap_toList _ _
  · show (check severity _ _).length ≤ 1 ∧ (check severity _ _ = [] ↔ _) ∧
      ∀ v, check severity _ _ = [v] ↔ _
    have hclean : checkFile policy severity f = none ↔ Clean policy f := checkFile_eq_none_iff
    rw [check_single_file, ← hclean]
    simp only [← checkFile_eq_some_iff]
    cases checkFile policy severity f <;> simp
  · show (u.files.filterMap _).filter _ = u.files.filterMap _
    rw [List.filter_filterMap]
    congr 1
    funext f
    exact (checkFile_optional policy severity f).symm

end NameLint.IncludeGuard

/-
The guard that is asked for is the guard that is accepted.

A header is judged by two parts that know nothing of each other.  One derives the name of
the guard from the path, the other looks for a guard in the lines.  Whoever writes the
derived name into a header, behind comments, code or nothing at all, relies on both: the
name has to be one that the scanner reads back as it was written.

`asked_guard_accepted` says so, and that every other name in that place is reported once,
at the place where it stands and together with the name that should be there.
-/
import NameLint.Proofs.Config.GuardToken
import NameLint.Proofs.Rule.GuardVerdict

namespace NameLint.IncludeGuard

open Guard (IsToken Quiet opening unmarked)

variable {policy : GuardPolicy} {path : Path} {preamble : List (List Char)}

/-- What is reported about a header whose guard is found is whether it has the right name. -/
theorem checkFile_of_found {severity : Severity} {lines : List String} {token : String}
    {line column : Nat} (happlies : policy.appliesTo (path.baseName) = true)
    (hscan : Guard.scan lines policy.lineLimit = .found token.toList line column) :
    checkFile policy severity ⟨path, some lines⟩
      = if token = policy.expectedGuard path then none
        else some ⟨nameId, severity, ⟨path, line, column⟩, "include guard naming violation; "
          ++ token ++ " != " ++ policy.expectedGuard path⟩ := by
  have hheader : IsHeader policy ⟨path, some lines⟩ lines := ⟨happlies, rfl⟩
  rw [checkFile_of_isHeader hheader, hscan, verdict, String.ofList_toList]

/--
**The guard that is asked for is the guard that is accepted.**  It may stand behind lines
without directives, as long as these leave room for it.  Any other token in its place is
reported, at that place and nowhere else.
-/
theorem asked_guard_accepted (hbefore : ∀ c ∈ policy.before.toList, IsMacroChar c)
    (hafter : ∀ c ∈ policy.after.toList, IsMacroChar c)
    (happlies : policy.appliesTo (path.baseName) = true)
    (hexpected : policy.expectedGuard path ≠ "") (hquiet : Quiet preamble)
    (hroom : preamble.length < policy.lineLimit) (severity : Severity) (s : Settings)
    (tail : List (List Char)) :
    let report := fun (lines : List String) =>
      check severity (s.set (.includeGuard policy)) { files := [⟨path, some lines⟩] }
    (∀ lines, unmarked lines = preamble ++ opening (policy.expectedGuard path).toList :: tail →
        report lines = []) ∧
      ∀ (lines : List String) (token : String), IsToken token.toList →
        token ≠ policy.expectedGuard path →
        unmarked lines = preamble ++ opening token.toList :: tail →
          report lines = [⟨nameId, severity, ⟨path, preamble.length + 1, 9⟩,
            "include guard naming violation; " ++ token ++ " != "
              ++ policy.expectedGuard path⟩] := by
  intro report
  have hreport : ∀ (lines : List String) (token : String), IsToken token.toList →
      unmarked lines = preamble ++ opening token.toList :: tail →
        report lines = (checkFile policy severity ⟨path, some lines⟩).toList ∧
          Guard.scan lines policy.lineLimit = .found token.toList (preamble.length + 1) 9 := by
    intro lines token htoken hlines
    exact ⟨check_single_file policy severity s _, Guard.scan_opening hlines hquiet hroom htoken⟩
  constructor
  · intro lines hlines
    have htoken : IsToken (policy.expectedGuard path).toList :=
      isToken_of_isMacroChar (by simpa using hexpected)
        (GuardPolicy.isMacroChar_of_mem_expectedGuard hbefore hafter)
    obtain ⟨hcheck, hscan⟩ := hreport lines _ htoken hlines
    rw [hcheck, checkFile_of_found happlies hscan, if_pos rfl, Option.toList_none]
  · intro lines token htoken hother hlines
    obtain ⟨hcheck, hscan⟩ := hreport lines token htoken hlines
    rw [hcheck, checkFile_of_found happlies hscan, if_neg hother, Option.toList_some]

/-- A path outside of ASCII, and a comment with a directive in it in front of the guard. -/
theorem asked_guard_accepted_of_commented_header :
    let pattern : NamePattern :=
      ⟨"g", .seq (.look .textStart) (.seq (.chars (.single 0x67)) .empty)⟩
    let policy : GuardPolicy := { header := pattern, before := "_" }
    let preamble := ["/* #if".toList, "*/ // */".toList]
    let header := fun (token : String) => ["\uFEFF/* #if", "*/ // */", "#ifndef " ++ token, "#if"]
    let report := fun (token : String) => check .style (Settings.set {} (.includeGuard policy))
      { files := [⟨"inc/größe.h", some (header token)⟩] }
    NamePattern.compile "g" = .ok pattern ∧
      policy.appliesTo (Path.baseName "inc/größe.h") = true ∧
      policy.expectedGuard "inc/größe.h" = "_INC_GR_SSE_H" ∧ Quiet preamble ∧
      report "_INC_GR_SSE_H" = [] ∧
      report "GR_SSE_H" = [⟨nameId, .style, ⟨"inc/größe.h", 3, 9⟩,
        "include guard naming violation; GR_SSE_H != _INC_GR_SSE_H"⟩] := by
  intro pattern policy preamble header report
  have happlies : policy.appliesTo (Path.baseName "inc/größe.h") = true := by decide +kernel
  have hexpected : policy.expectedGuard "inc/größe.h" = "_INC_GR_SSE_H" := by decide +kernel
  have hquiet : Quiet preamble := ⟨by decide +kernel, by decide +kernel⟩
  have hchars : ∀ text : String, (text.toList.all fun c => decide (IsMacroChar c)) = true →
      ∀ c ∈ text.toList, IsMacroChar c :=
    fun text h c hc => of_decide_eq_true (List.all_eq_true.mp h c hc)
  have hbefore : ∀ c ∈ policy.before.toList, IsMacroChar c := hchars _ (by decide +kernel)
  have hafter : ∀ c ∈ policy.after.toList, IsMacroChar c := hchars _ (by decide +kernel)
  have hother : IsToken "GR_SSE_H".toList :=
    isToken_of_isMacroChar (by decide +kernel) (hchars _ (by decide +kernel))
  have haccepted := asked_guard_accepted hbefore hafter happlies (by rw [hexpected]; decide) hquiet
    (by decide +kernel) .style {} ["#if".toList]
  rw [hexpected] at haccepted
  exact ⟨rfl, happlies, hexpected, hquiet, haccepted.1 _ (by decide +kernel),
    haccepted.2 _ "GR_SSE_H" hother (by decide) (by decide +kernel)⟩

end NameLint.IncludeGuard

/-
When the guard that is asked for can be defined.

The name of a macro has a letter or an underscore first.  The derived part of a guard has no
underscores at its ends, so it begins with the first letter or digit of its header's path,
and nothing keeps that from being a digit; it may also be empty.  The texts around it are
whatever the configuration says.

All of this can be read off the policy and the path, and the main statement says how.
-/
import Mathlib.Data.List.Find
import NameLint.Config.Validation
import NameLint.Proofs.Config.GuardToken

namespace NameLint

/-- That a text is the name of a macro. -/
structure IsMacroName (name : String) : Prop where
  /-- It begins with a letter or an underscore. -/
  first : ∃ c, name.toList.head? = some c ∧ (c.isAlpha = true ∨ c = '_')
  /-- All of it is letters, digits and underscores. -/
  chars : ∀ c ∈ name.toList, IsMacroChar c

/-- Digits are the only characters of a name that may not be the first one. -/
theorem isFirst_iff {c : Char} (h : IsMacroChar c) :
    (c.isAlpha = true ∨ c = '_') ↔ c.isDigit = false :=
  of_isMacroChar (P := fun c => (c.isAlpha = true ∨ c = '_') ↔ c.isDigit = false)
    (by decide +kernel) h

theorem isAlphanum_eq_of_isMacroChar {c : Char} (h : IsMacroChar c) :
    decide (c ≠ '_') = c.isAlphanum :=
  of_isMacroChar (P := fun c => decide (c ≠ '_') = c.isAlphanum) (by decide +kernel) h

/-- Being a name is a matter of all characters, and of the first one in particular. -/
theorem isMacroName_iff {name : String} : IsMacroName name ↔
    (∀ c ∈ name.toList, IsMacroChar c) ∧ ∃ c, name.toList.head? = some c ∧ c.isDigit = false := by
  constructor
  · rintro ⟨⟨c, hhead, hfirst⟩, hchars⟩
    have hc := hchars c (List.mem_of_head? hhead)
    exact ⟨hchars, c, hhead, (isFirst_iff hc).mp hfirst⟩
  · rintro ⟨hchars, c, hhead, hdigit⟩
    have hc := hchars c (List.mem_of_head? hhead)
    exact ⟨⟨c, hhead, (isFirst_iff hc).mpr hdigit⟩, hchars⟩

namespace GuardToken

/-! ### How the derived part begins -/

theorem find?_barred (cased : List Char) :
    ∀ inBar, (barred inBar cased).find? Char.isAlphanum = cased.find? Char.isAlphanum := by
  induction cased with
  | nil => intro inBar; rfl
  | cons c cased ih =>
      intro inBar
      rw [barred]
      by_cases hc : c.isAlphanum = true
      · rw [if_pos hc, List.find?_cons_of_pos hc, List.find?_cons_of_pos hc]
      · rw [if_neg hc, List.find?_cons_of_neg hc]
        cases inBar with
        | true => exact ih true
        | false => exact ih true

/-- Trimming leaves the first character that is no underscore in front. -/
theorem head?_trimBars (text : List Char) : (trimBars text).head? = text.find? (· ≠ '_') := by
  induction text with
  | nil => rfl
  | cons c text ih =>
      by_cases hc : c = '_'
      · subst hc
        exact ih
      · have hkept : ¬ decide (c = '_') = true := by simpa using hc
        have hfront : (c :: text).dropWhile (fun d => d = '_') = c :: text :=
          List.dropWhile_cons_of_neg hkept
        have hback : [c].dropWhile (fun d => d = '_') = [c] := List.dropWhile_cons_of_neg hkept
        rw [trimBars, hfront, List.reverse_cons, List.dropWhile_append, hback,
          List.find?_cons_of_pos (by simpa using hc)]
        split <;> simp

theorem head?_bodyOf (cased : List Char) : (bodyOf cased).head? = cased.find? Char.isAlphanum := by
  rw [bodyOf, head?_trimBars, ← find?_barred cased false]
  exact List.find?_congr fun c hc =>
    isAlphanum_eq_of_isMacroChar (isMacroChar_of_mem_barred cased false hc)

end GuardToken

/-! ### Guards -/

namespace GuardPolicy

variable (policy : GuardPolicy) (path : Path)

/-- The first letter or digit of what a guard is named after, in the case asked for. -/
def leading? : Option Char :=
  (policy.guardCase.apply (policy.input.of path).toList).find? Char.isAlphanum

theorem head?_expectedGuard : (policy.expectedGuard path).toList.head?
    = (policy.before.toList ++ (policy.leading? path).toList ++ policy.after.toList).head? := by
  rw [expectedGuard, GuardToken.derive, String.toList_append, String.toList_append,
    String.toList_ofList]
  simp only [List.head?_append, GuardToken.head?_bodyOf, Option.head?_toList, leading?]

theorem isMacroChar_expectedGuard_iff :
    (∀ c ∈ (policy.expectedGuard path).toList, IsMacroChar c)
      ↔ ∀ c ∈ policy.before.toList ++ policy.after.toList, IsMacroChar c := by
  rw [List.forall_mem_append]
  constructor
  · intro h
    rw [expectedGuard, GuardToken.derive, String.toList_append, String.toList_append,
      List.forall_mem_append, List.forall_mem_append] at h
    exact ⟨h.1.1, h.2⟩
  · rintro ⟨hbefore, hafter⟩
    exact isMacroChar_of_mem_expectedGuard hbefore hafter

/--
**When a guard can be defined.**  The guard of a header is the name of a macro exactly if the
texts put around it are made of letters, digits and underscores, and if there is something
to begin with that is no digit: the first character of the text before, of the derived part,
or of the text after.
-/
theorem isMacroName_expectedGuard_iff : IsMacroName (policy.expectedGuard path) ↔
    (∀ c ∈ policy.before.toList ++ policy.after.toList, IsMacroChar c) ∧
      ∃ c, (policy.before.toList ++ (policy.leading? path).toList ++ policy.after.toList).head?
        = some c ∧ c.isDigit = false := by
  rw [isMacroName_iff, isMacroChar_expectedGuard_iff, head?_expectedGuard]

end GuardPolicy

namespace Config

/-- The guard that a configuration of include guards asks of a header, if it has one. -/
def guardAsked (options : List (String × Json)) (path : Path) : Option String :=
  ((validate [("include_guard", .dict options)]).settings.includeGuard.filter
    (·.appliesTo (path.baseName))).map (·.expectedGuard path)

/-- Configurations without defects ask for guards that are no names: with a digit in front, with
a character that no name has, and without any character. -/
theorem unusable_guards_asked :
    let plain := [("RE_HEADERFILE", .str "1")]
    let prefixed := [("RE_HEADERFILE", .str "a"), ("prefix", .str "my-")]
    let foreign := [("RE_HEADERFILE", .str "é")]
    (∀ options ∈ [plain, prefixed, foreign],
      (validate [("include_guard", .dict options)]).diagnostics = []) ∧
    (guardAsked plain "1.h" = some "1_H" ∧ ¬ IsMacroName "1_H") ∧
    (guardAsked prefixed "a.h" = some "my-A_H" ∧ ¬ IsMacroName "my-A_H") ∧
    guardAsked foreign "é" = some "" ∧ ¬ IsMacroName "" := by
  intro plain prefixed foreign
  refine ⟨?_, ⟨by decide +kernel, ?_⟩, ⟨by decide +kernel, ?_⟩, by decide +kernel, ?_⟩
  · have hdefects : ([plain, prefixed, foreign].all fun options =>
        (validate [("include_guard", .dict options)]).diagnostics.isEmpty) = true := by
      decide +kernel
    exact fun options h => List.isEmpty_iff.mp (List.all_eq_true.mp hdefects options h)
  · rintro ⟨⟨c, hc, hfirst⟩, -⟩
    cases hc
    revert hfirst
    decide
  · rintro ⟨-, hchars⟩
    have hdash : IsMacroChar '-' := hchars '-' (by decide)
    revert hdash
    decide
  · rintro ⟨⟨c, hc, -⟩, -⟩
    cases hc

end Config

end NameLint

/-
What the names of guards are made of.

A guard is derived from a path in any script, and its body is made of ASCII letters, digits
and underscores all the same.  So it can stand in a line as it is, as long as the texts put
around it can.
-/
import NameLint.Config.GuardPolicy
import NameLint.Proofs.Guard.Opening

namespace NameLint

open TypeSpelling (IsWord)
open Text (isBlank)

/-! ### Characters -/

/-- That a character may be part of the name of a macro. -/
def IsMacroChar (c : Char) : Prop :=
  c.isAlphanum = true ∨ c = '_'

instance (c : Char) : Decidable (IsMacroChar c) :=
  inferInstanceAs (Decidable (_ ∨ _))

theorem toNat_lt_of_isMacroChar {c : Char} (h : IsMacroChar c) : c.toNat < 128 := by
  rcases h with h | rfl
  · have hranges : ((decide (c.val ≥ 'A'.val ∧ c.val ≤ 'Z'.val)
        || decide (c.val ≥ 'a'.val) && decide (c.val ≤ 'z'.val))
        || decide (c.val ≥ '0'.val) && decide (c.val ≤ '9'.val)) = true := h
    simp only [Bool.or_eq_true, Bool.and_eq_true, decide_eq_true_eq, ge_iff_le,
      UInt32.le_iff_toNat_le] at hranges
    have hvalue : c.toNat = c.val.toNat := rfl
    have hupper : 'Z'.val.toNat = 90 := rfl
    have hlower : 'z'.val.toNat = 122 := rfl
    have hdigit : '9'.val.toNat = 57 := rfl
    omega
  · decide

/-- What can be seen of the characters of names in a table of ASCII. -/
theorem of_isMacroChar {P : Char → Prop}
    (h : ∀ n < 128, IsMacroChar (Char.ofNat n) → P (Char.ofNat n)) {c : Char} (hc : IsMacroChar c) :
    P c := by
  have hp := h c.toNat (toNat_lt_of_isMacroChar hc)
  rw [Char.ofNat_toNat] at hp
  exact hp hc

/-- No character of a macro's name separates words or begins a comment. -/
theorem isBlank_of_isMacroChar {c : Char} (h : IsMacroChar c) : isBlank c = false ∧ c ≠ '/' :=
  of_isMacroChar (P := fun c => isBlank c = false ∧ c ≠ '/') (by decide +kernel) h

/-- The name of a macro is one token. -/
theorem isToken_of_isMacroChar {name : List Char} (hne : name ≠ [])
    (h : ∀ c ∈ name, IsMacroChar c) : Guard.IsToken name := by
  have hslash : ∀ d, ¬ ['/', d] <:+: name := by
    intro d hinfix
    have hmem : '/' ∈ name := hinfix.subset List.mem_cons_self
    exact (isBlank_of_isMacroChar (h '/' hmem)).2 rfl
  exact ⟨⟨hne, fun c hc => (isBlank_of_isMacroChar (h c hc)).1⟩, hslash '/', hslash '*'⟩

/-! ### Derived names -/

namespace GuardToken

/-- A character is kept only if it is a letter or a digit; all else becomes underscores. -/
theorem of_mem_barred {c : Char} : ∀ (cased : List Char) (inBar : Bool),
    c ∈ barred inBar cased → c ∈ cased ∧ c.isAlphanum = true ∨ c = '_' := by
  intro cased
  induction cased with
  | nil =>
      intro inBar h
      cases h
  | cons d cased ih =>
      intro inBar h
      have hrest : ∀ b, c ∈ barred b cased → c ∈ d :: cased ∧ c.isAlphanum = true ∨ c = '_' := by
        intro b hc
        exact (ih b hc).imp_left fun hkept => ⟨List.mem_cons_of_mem d hkept.1, hkept.2⟩
      rw [barred] at h
      by_cases hd : d.isAlphanum = true
      · rw [if_pos hd] at h
        rcases List.mem_cons.mp h with rfl | h
        · exact Or.inl ⟨List.mem_cons_self, hd⟩
        · exact hrest false h
      · rw [if_neg hd] at h
        cases inBar with
        | true => exact hrest true h
        | false =>
            rcases List.mem_cons.mp h with rfl | h
            · exact Or.inr rfl
            · exact hrest true h

theorem isMacroChar_of_mem_barred {c : Char} (cased : List Char) (inBar : Bool)
    (h : c ∈ barred inBar cased) : IsMacroChar c :=
  (of_mem_barred cased inBar h).imp_left And.right

theorem mem_of_mem_trimBars {c : Char} {text : List Char} (h : c ∈ trimBars text) : c ∈ text := by
  have hback := (List.dropWhile_suffix _).subset (List.mem_reverse.mp h)
  exact (List.dropWhile_suffix _).subset (List.mem_reverse.mp hback)

/-- **The body of a guard is made of characters for names of macros, whatever the path.** -/
theorem isMacroChar_of_mem_bodyOf {c : Char} {cased : List Char} (h : c ∈ bodyOf cased) :
    IsMacroChar c :=
  isMacroChar_of_mem_barred cased false (mem_of_mem_trimBars h)

end GuardToken

/-- The guard of a header is made of characters for names of macros if what is put around it is. -/
theorem GuardPolicy.isMacroChar_of_mem_expectedGuard {policy : GuardPolicy} {path : Path}
    (hbefore : ∀ c ∈ policy.before.toList, IsMacroChar c)
    (hafter : ∀ c ∈ policy.after.toList, IsMacroChar c) :
    ∀ c ∈ (policy.expectedGuard path).toList, IsMacroChar c := by
  intro c hc
  rw [expectedGuard, GuardToken.derive, String.toList_append, String.toList_append,
    String.toList_ofList] at hc
  rcases List.mem_append.mp hc with hc | hc
  · rcases List.mem_append.mp hc with hc | hc
    · exact hbefore c hc
    · exact GuardToken.isMacroChar_of_mem_bodyOf hc
  · exact hafter c hc

end NameLint

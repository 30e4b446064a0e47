/-
Texts and numbers are read back as they were written.

A text is read one character at a time, and `textChar_escapeChar` says that each character
is read back from whatever stands for it.  A number is read by gathering its digits; it
ends where they end, so what comes after it must not look like more of a number.
-/
import NameLint.Json.Record
import NameLint.Json.Writer
import NameLint.Proofs.Except

namespace NameLint.Json

/-! ### Texts -/

/-- The digits of the escape of a control character. -/
def controlDigits (n : Nat) : List Char :=
  List.replicate (4 - (Nat.toDigits 16 n).length) '0' ++ Nat.toDigits 16 n

theorem fourHexDigits?_control : ∀ n < 0x20,
    controlDigits n = ['0', '0', (n / 16).digitChar, (n % 16).digitChar] ∧
      fourHexDigits? '0' '0' (n / 16).digitChar (n % 16).digitChar = some n := by
  decide

theorem hexEscape_controlDigits {n : Nat} (h : n < 0x20) (rest : List Char) :
    hexEscape (controlDigits n ++ rest) = .ok (n, rest) := by
  obtain ⟨hdigits, hvalue⟩ := fourHexDigits?_control n h
  rw [hdigits]
  simp only [List.cons_append, List.nil_append, hexEscape, hvalue]

theorem textChar_controlEscape {c : Char} (h : c.toNat < 0x20) (rest : List Char) :
    textChar (controlEscape c ++ rest) = .ok (some c, rest) := by
  have hcode : codePoint (controlDigits c.toNat ++ rest) = .ok (c, rest) := by
    unfold codePoint
    rw [run_bind_of_ok (hexEscape_controlDigits h rest), if_neg (by omega), if_pos (by omega),
      Char.ofNat_toNat]
    rfl
  exact run_map_of_ok hcode some

/-- A character is read back from what is written for it. -/
theorem textChar_escapeChar (c : Char) (rest : List Char) :
    textChar (escapeChar c ++ rest) = .ok (some c, rest) := by
  unfold escapeChar
  split
  · subst_vars; rfl
  split
  · subst_vars; rfl
  split
  · subst_vars; rfl
  split
  · subst_vars; rfl
  split
  · subst_vars; rfl
  split
  · subst_vars; rfl
  split
  · subst_vars; rfl
  split
  · rename_i h
    exact textChar_controlEscape h rest
  · rename_i hquote hslash _ _ _ _ _ hprintable
    unfold textChar
    split
    · simp_all
    · simp_all
    · simp_all
    · simp_all
    · simp_all
    · simp_all

/-- A character is written as something, or it could not be read. -/
theorem escapeChar_ne_nil (c : Char) : escapeChar c ≠ [] := by
  intro hnil
  have hread := textChar_escapeChar c []
  rw [hnil] at hread
  cases hread

theorem length_le_flatMap {α β : Type} {f : α → List β} (hf : ∀ a, f a ≠ []) (as : List α) :
    as.length ≤ (as.flatMap f).length := by
  induction as with
  | nil => exact Nat.le_refl 0
  | cons a as ih =>
      have ha := List.length_pos_iff.mpr (hf a)
      rw [List.flatMap_cons, List.length_append, List.length_cons]
      omega

theorem textChars_flatMap (cs : List Char) (rest done : List Char) {fuel : Nat}
    (hfuel : cs.length < fuel) :
    textChars fuel done (cs.flatMap escapeChar ++ '"' :: rest)
      = .ok (done.reverse ++ cs, rest) := by
  obtain ⟨fuel, rfl⟩ := Nat.exists_eq_add_one.mpr (Nat.zero_lt_of_lt hfuel)
  induction cs generalizing fuel done with
  | nil =>
      rw [List.append_nil]
      rfl
  | cons c cs ih =>
      have hpos := Nat.zero_lt_of_lt (Nat.lt_of_succ_lt_succ hfuel)
      obtain ⟨fuel, rfl⟩ := Nat.exists_eq_add_one.mpr hpos
      rw [List.flatMap_cons, List.append_assoc, textChars, run_bind_of_ok (textChar_escapeChar c _)]
      have hrest := ih (c :: done) fuel (Nat.lt_of_succ_lt_succ hfuel)
      rw [List.reverse_cons, List.append_assoc] at hrest
      exact hrest

/-- A text is read back after its opening quote. -/
theorem text_of_literal (s : String) (rest : List Char) :
    text (s.toList.flatMap escapeChar ++ '"' :: rest) = .ok (s, rest) := by
  have hlen := length_le_flatMap escapeChar_ne_nil s.toList
  have hfuel : s.toList.length < (s.toList.flatMap escapeChar ++ '"' :: rest).length + 1 := by
    rw [List.length_append]
    omega
  have hread := textChars_flatMap s.toList rest [] hfuel
  refine (run_map_of_ok hread String.ofList).trans ?_
  rw [List.reverse_nil, List.nil_append, String.ofList_toList]

/-! ### Numbers -/

/-- That a text does not go on as a number does. -/
def EndsNumber (rest : List Char) : Prop :=
  ∀ c, rest.head? = some c → c.isDigit = false ∧ c ≠ '.' ∧ c ≠ 'e' ∧ c ≠ 'E'

theorem EndsNumber.startsWithDigit_eq {rest : List Char} (h : EndsNumber rest) :
    startsWithDigit rest = false := by
  cases rest with
  | nil => rfl
  | cons c cs => exact (h c rfl).1

theorem le_ofDigitChars (ds : List Char) (n : Nat) : n ≤ Nat.ofDigitChars 10 ds n := by
  induction ds generalizing n with
  | nil => exact Nat.le_refl n
  | cons d ds ih =>
      have hd := ih (10 * n + (d.toNat - '0'.toNat))
      rw [Nat.ofDigitChars_cons]
      omega

/-- All digits of a number that fits are gathered. -/
theorem gatherDigits_append {ds rest : List Char} (hds : ∀ c ∈ ds, c.isDigit = true)
    (hrest : startsWithDigit rest = false) (n count : Nat)
    (hfits : Nat.ofDigitChars 10 ds n < Nat.pow 2 64) :
    gatherDigits n count (ds ++ rest) = (Nat.ofDigitChars 10 ds n, count + ds.length, rest) := by
  induction ds generalizing n count with
  | nil =>
      cases rest with
      | nil => rfl
      | cons c cs =>
          have hc : ¬ (c.isDigit = true ∧ n * 10 + Text.digitValue c < Nat.pow 2 64) := by
            rintro ⟨hdigit, -⟩
            exact absurd (hdigit.symm.trans hrest) (by decide)
          rw [List.nil_append, gatherDigits, if_neg hc]
          rfl
  | cons d ds ih =>
      have hvalue : n * 10 + Text.digitValue d = 10 * n + (d.toNat - '0'.toNat) := by
        rw [Text.digitValue, Nat.mul_comm]
      have hle := le_ofDigitChars ds (10 * n + (d.toNat - '0'.toNat))
      rw [Nat.ofDigitChars_cons] at hfits ⊢
      rw [List.cons_append, gatherDigits, hvalue,
        if_pos ⟨hds d List.mem_cons_self, Nat.lt_of_le_of_lt hle hfits⟩,
        ih (fun c hc => hds c (List.mem_cons_of_mem d hc)) _ _ hfits]
      simp only [List.length_cons]
      congr 2
      omega

theorem head?_toDigits {n : Nat} (h : 0 < n) : (Nat.toDigits 10 n).head? ≠ some '0' := by
  induction n using Nat.strongRecOn with
  | ind n ih =>
      rw [Nat.toDigits_eq_if (by decide)]
      split
      · rename_i hlt
        have hall : ∀ k < 10, 0 < k → [k.digitChar].head? ≠ some '0' := by decide
        exact hall n hlt h
      · rename_i hge
        have hdiv := ih (n / 10) (by omega) (by omega)
        cases hds : Nat.toDigits 10 (n / 10) with
        | nil => exact absurd hds Nat.toDigits_ne_nil
        | cons d ds =>
            rw [hds] at hdiv
            exact hdiv

theorem afterDigits_of_ends {n : Nat} {rest : List Char} (hrest : EndsNumber rest) :
    afterDigits false n rest = .ok (.int n, rest) := by
  unfold afterDigits
  split
  · exact absurd rfl (hrest _ rfl).2.1
  · exact absurd rfl (hrest _ rfl).2.2.1
  · exact absurd rfl (hrest _ rfl).2.2.2
  · rfl

/-- A whole number is read back where its digits end. -/
theorem number_of_digits {n : Nat} (hn : n < Nat.pow 2 64) {rest : List Char}
    (hrest : EndsNumber rest) : number (Nat.toDigits 10 n ++ rest) = .ok (.int n, rest) := by
  have hdigits : ∀ c ∈ Nat.toDigits 10 n, c.isDigit = true :=
    fun c hc => Nat.isDigit_of_mem_toDigits (by decide) (by decide) hc
  have hgather := gatherDigits_append hdigits hrest.startsWithDigit_eq 0 0
    (by rw [Nat.ofDigitChars_ten_toDigits]; exact hn)
  rw [Nat.ofDigitChars_ten_toDigits] at hgather
  cases hds : Nat.toDigits 10 n with
  | nil => exact absurd hds Nat.toDigits_ne_nil
  | cons d ds =>
      rw [hds] at hdigits hgather
      have hd := hdigits d List.mem_cons_self
      have hunsigned : number (d :: (ds ++ rest)) = unsignedNumber false (d :: (ds ++ rest)) := by
        unfold number
        split
        · rename_i heq
          cases heq
          exact absurd hd (by decide)
        · rfl
      have hstart : startsWithDigit (d :: (ds ++ rest)) = true := hd
      rw [List.cons_append] at hgather ⊢
      rw [hunsigned, unsignedNumber, if_neg (by simp), if_neg (not_not_intro hstart)]
      by_cases hzero : d = '0'
      · subst hzero
        have hn0 : n = 0 := by
          refine Nat.eq_zero_of_not_pos fun hpos => ?_
          exact head?_toDigits hpos (by rw [hds]; rfl)
        subst hn0
        cases hds
        rw [List.nil_append, List.head?_cons, List.tail_cons, if_pos rfl, hrest.startsWithDigit_eq,
          if_neg (by decide)]
        exact afterDigits_of_ends hrest
      · have hfurther : (rest.takeWhile Char.isDigit).length = 0 := by
          cases rest with
          | nil => rfl
          | cons c cs => simp [(hrest c rfl).1]
        rw [if_neg (by simpa using hzero), hgather]
        dsimp only
        rw [if_pos hfurther]
        exact afterDigits_of_ends hrest

end NameLint.Json

/-
ASCII letters in upper and in lower case.

Some characters of other scripts have counterparts in ASCII: the upper case of U+00DF is two
letters S, the lower case of the Kelvin sign is a k.  But no mapping to upper case ends at a
small letter of ASCII, and none to lower case at a capital one.  So once a text is mapped,
mapping the ASCII that is in it again changes nothing.
-/
import Mathlib.Data.List.Basic
import NameLint.Unicode.Casing

namespace NameLint

theorem isLower_iff {c : Char} : c.isLower = true ↔ 97 ≤ c.toNat ∧ c.toNat ≤ 122 := by
  show (decide ('a'.val ≤ c.val) && decide (c.val ≤ 'z'.val)) = true ↔ _
  simp [UInt32.le_iff_toNat_le, ← Char.toNat_val]

theorem isUpper_iff {c : Char} : c.isUpper = true ↔ 65 ≤ c.toNat ∧ c.toNat ≤ 90 := by
  show decide ('A'.val ≤ c.val ∧ c.val ≤ 'Z'.val) = true ↔ _
  simp [UInt32.le_iff_toNat_le, ← Char.toNat_val]

/-- What holds of the first characters one by one holds of ASCII. -/
theorem of_ascii {p : Char → Prop} (h : ∀ n < 128, p (Char.ofNat n)) {c : Char}
    (hc : c.toNat < 128) : p c := by
  have hchar := h c.toNat hc
  rwa [Char.ofNat_toNat] at hchar

theorem isLower_toUpper_of_ascii {c : Char} : c.toNat < 128 → c.toUpper.isLower = false :=
  of_ascii (p := fun c => c.toUpper.isLower = false) (by decide)

theorem isUpper_toLower_of_ascii {c : Char} : c.toNat < 128 → c.toLower.isUpper = false :=
  of_ascii (p := fun c => c.toLower.isUpper = false) (by decide)

theorem toUpper_of_ascii {c : Char} : c.toNat < 128 → c.isLower = false → c.toUpper = c :=
  of_ascii (p := fun c => c.isLower = false → c.toUpper = c) (by decide)

theorem toLower_of_ascii {c : Char} : c.toNat < 128 → c.isUpper = false → c.toLower = c :=
  of_ascii (p := fun c => c.isUpper = false → c.toLower = c) (by decide)

/-- A code point that is no character stands for the first one. -/
theorem ofNat_of_le {n : Nat} (h : 128 ≤ n) :
    Char.ofNat n = Char.ofNat 0 ∨ 128 ≤ (Char.ofNat n).toNat := by
  by_cases hvalid : n.isValidChar
  · right
    rw [Char.ofNat, dif_pos hvalid]
    exact h
  · left
    rw [Char.ofNat, dif_neg hvalid]
    rfl

/-! ### Mappings that end away from some letters -/

/-- That a run of characters has no counterparts among the given letters of ASCII. -/
def CaseRun.Avoids (letters : Char → Bool) (r : CaseRun) : Prop :=
  128 ≤ (r.first : Int) + r.offset ∨
    r.first = r.last ∧ letters (Char.ofNat (r.shift r.first)) = false

instance (letters : Char → Bool) (r : CaseRun) : Decidable (r.Avoids letters) :=
  inferInstanceAs (Decidable (_ ∨ _))

/-- That letters are among the characters of ASCII, the first one apart. -/
structure IsAsciiLetters (letters : Char → Bool) : Prop where
  /-- The first character is none of them. -/
  zero : letters (Char.ofNat 0) = false
  /-- Nothing outside ASCII is one of them. -/
  above : ∀ {c : Char}, 128 ≤ c.toNat → letters c = false

namespace Casing

variable {letters : Char → Bool} {c d : Char} {text : List Char}

theorem isAsciiLetters_isLower : IsAsciiLetters Char.isLower := by
  refine ⟨by decide, fun {c} hc => ?_⟩
  rw [Bool.eq_false_iff, ne_eq, isLower_iff]
  omega

theorem isAsciiLetters_isUpper : IsAsciiLetters Char.isUpper := by
  refine ⟨by decide, fun {c} hc => ?_⟩
  rw [Bool.eq_false_iff, ne_eq, isUpper_iff]
  omega

theorem not_letter_of_le (hletters : IsAsciiLetters letters) {n : Nat} (h : 128 ≤ n) :
    letters (Char.ofNat n) = false := by
  rcases ofNat_of_le h with hzero | habove
  · rw [hzero]
    exact hletters.zero
  · exact hletters.above habove

theorem not_letter_shift (hletters : IsAsciiLetters letters) {r : CaseRun}
    (hr : r.Avoids letters) {n : Nat} (hn : r.covers n = true) :
    letters (Char.ofNat (r.shift n)) = false := by
  simp only [CaseRun.covers, Bool.and_eq_true, decide_eq_true_eq] at hn
  obtain ⟨⟨hfirst, hlast⟩, -⟩ := hn
  rcases hr with hbeyond | ⟨hsingle, hshift⟩
  · refine not_letter_of_le hletters ?_
    unfold CaseRun.shift
    omega
  · have hn : n = r.first := by omega
    rw [hn]
    exact hshift

/-- A mapping whose tables avoid some letters does not lead to them from outside ASCII. -/
theorem not_letter_of_mem_counterpart (hletters : IsAsciiLetters letters)
    {texts : List (Nat × List Nat)} {runs : List CaseRun}
    (htexts : ∀ t ∈ texts, ∀ code ∈ t.2, letters (Char.ofNat code) = false)
    (hruns : ∀ r ∈ runs, r.Avoids letters) (hc : 128 ≤ c.toNat)
    (hd : d ∈ counterpart texts runs c) : letters d = false := by
  unfold counterpart at hd
  split at hd
  · rename_i codes hcodes
    obtain ⟨code, hcode, rfl⟩ := List.mem_map.mp hd
    obtain ⟨before, after, hsplit, -⟩ := List.lookup_eq_some_iff.mp hcodes
    exact htexts (c.toNat, codes) (by simp [hsplit]) code hcode
  · rw [List.mem_singleton] at hd
    rw [hd, CaseRun.shifted?]
    cases hfind : runs.find? (·.covers c.toNat) with
    | none => exact hletters.above hc
    | some r =>
        have hcovers : r.covers c.toNat = true := by
          simpa using List.find?_some hfind
        exact not_letter_shift hletters (hruns r (List.mem_of_find?_eq_some hfind)) hcovers

/-! ### Upper case -/

theorem upperTexts_avoid :
    ∀ t ∈ upperTexts, ∀ code ∈ t.2, (Char.ofNat code).isLower = false := by
  decide +kernel

theorem upperRuns_avoid : ∀ r ∈ upperRuns, r.Avoids Char.isLower := by
  decide +kernel

/-- **There is no small letter of ASCII in a text in upper case.** -/
theorem isLower_of_mem_upper (h : d ∈ upper text) : d.isLower = false := by
  obtain ⟨c, -, hd⟩ := List.mem_flatMap.mp h
  unfold upperChar at hd
  by_cases hc : c.toNat < 0x80
  · rw [if_pos hc, List.mem_singleton] at hd
    rw [hd]
    exact isLower_toUpper_of_ascii hc
  · rw [if_neg hc] at hd
    exact not_letter_of_mem_counterpart isAsciiLetters_isLower upperTexts_avoid upperRuns_avoid
      (by omega) hd

theorem upper_eq_self (hascii : ∀ c ∈ text, c.toNat < 128) (h : ∀ c ∈ text, c.isLower = false) :
    upper text = text := by
  have hfixed : ∀ c ∈ text, upperChar c = [c] := by
    intro c hc
    have hbelow : c.toNat < 0x80 := hascii c hc
    rw [upperChar, if_pos hbelow, toUpper_of_ascii hbelow (h c hc)]
  rw [upper, List.flatMap_congr hfixed]
  exact List.flatMap_singleton' text

/-! ### Lower case -/

theorem lowerTexts_avoid :
    ∀ t ∈ lowerTexts, ∀ code ∈ t.2, (Char.ofNat code).isUpper = false := by
  decide +kernel

theorem lowerRuns_avoid : ∀ r ∈ lowerRuns, r.Avoids Char.isUpper := by
  decide +kernel

theorem isUpper_of_mem_lowerChar (hd : d ∈ lowerChar c) : d.isUpper = false := by
  unfold lowerChar at hd
  by_cases hc : c.toNat < 0x80
  · rw [if_pos hc, List.mem_singleton] at hd
    rw [hd]
    exact isUpper_toLower_of_ascii hc
  · rw [if_neg hc] at hd
    exact not_letter_of_mem_counterpart isAsciiLetters_isUpper lowerTexts_avoid lowerRuns_avoid
      (by omega) hd

theorem isUpper_of_mem_lowerAfter {before : List Char} (h : d ∈ lowerAfter before text) :
    d.isUpper = false := by
  induction text generalizing before with
  | nil => simp [lowerAfter] at h
  | cons c rest ih =>
      rcases List.mem_append.mp h with hd | hd
      · by_cases hsigma : c = capitalSigma ∧ meetsCased before ∧ ¬ meetsCased rest
        · rw [if_pos hsigma, List.mem_singleton] at hd
          rw [hd]
          decide
        · rw [if_neg hsigma] at hd
          exact isUpper_of_mem_lowerChar hd
      · exact ih hd

/-- **There is no capital letter of ASCII in a text in lower case.** -/
theorem isUpper_of_mem_lower (h : d ∈ lower text) : d.isUpper = false :=
  isUpper_of_mem_lowerAfter h

theorem lowerAfter_eq_self (hascii : ∀ c ∈ text, c.toNat < 128)
    (h : ∀ c ∈ text, c.isUpper = false) (before : List Char) : lowerAfter before text = text := by
  induction text generalizing before with
  | nil => rfl
  | cons c rest ih =>
      have hc : c.toNat < 0x80 := hascii c (by simp)
      have hsigma : c ≠ capitalSigma := by
        intro heq
        rw [heq] at hc
        exact absurd hc (by decide)
      have hrest := ih (fun d hd => hascii d (by simp [hd])) (fun d hd => h d (by simp [hd]))
        (c :: before)
      rw [lowerAfter, if_neg (fun hall => hsigma hall.1), lowerChar, if_pos hc,
        toLower_of_ascii hc (h c List.mem_cons_self), hrest]
      rfl

theorem lower_eq_self (hascii : ∀ c ∈ text, c.toNat < 128) (h : ∀ c ∈ text, c.isUpper = false) :
    lower text = text :=
  lowerAfter_eq_self hascii h []

end Casing

end NameLint

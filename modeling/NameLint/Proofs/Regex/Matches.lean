/-
What a pattern matches, and that matching finds it.

`Matches text r i j` says, by recursion on the pattern, that `r` matches the part of the
text from place `i` to place `j`.  It knows nothing of sets of places, plans or early
stops, and it is the meaning that statements about patterns use.

`ends` computes with sets of places.  `Carries n R next` is what makes one set operation
right: it takes every set of places of a text with `n` characters to the places that the
relation `R` leads to from there.  One lemma for each way to build a plan then gives
`carries_ends`, the correctness of matching.

The repetition without an upper bound is the one case with an argument.  The operation
runs only `n + 1` rounds, so that many have to be enough.  They are, because a set that is
still growing gains a place in every round and there are no more than `n + 1` places.
-/
import Mathlib.Data.Finset.Card
import Mathlib.Order.Monotone.Basic
import NameLint.Regex.Matching

namespace NameLint.Regex

/-! ### The relation -/

/-- The relation so many times in a row. -/
def inRow (R : Nat → Nat → Prop) : Nat → Nat → Nat → Prop
  | 0, i, j => j = i
  | count + 1, i, k => ∃ j, R i j ∧ inRow R count j k

/-- The character before a place. -/
def charBefore (text : List Char) (i : Nat) : Option Char :=
  if i = 0 then none else text[i - 1]?

/--
That the pattern matches the text from one place to another.  An upper bound below the
lower one counts for nothing; patterns with such bounds are refused when they are read.
-/
def Matches (text : List Char) : Regex → Nat → Nat → Prop
  | .empty, i, j => j = i
  | .chars s, i, j => j = i + 1 ∧ ∃ c, text[i]? = some c ∧ s.contains c = true
  | .look l, i, j => j = i ∧ l.holds (charBefore text i) text[i]? = true
  | .seq a b, i, k => ∃ j, a.Matches text i j ∧ b.Matches text j k
  | .alt a b, i, j => a.Matches text i j ∨ b.Matches text i j
  | .times inner low high, i, j =>
    ∃ count, low ≤ count ∧ (∀ m, high = some m → count ≤ max low m) ∧
      inRow (fun i j => inner.Matches text i j) count i j

/-! ### Sets of places -/

/-- A set of places of a text with `n` characters. -/
def Within (n : Nat) (p : Places) : Prop :=
  ∀ i, p.testBit i = true → i ≤ n

/-- An operation on sets that takes places to where the relation leads from them. -/
def Carries (n : Nat) (R : Nat → Nat → Prop) (next : Places → Places) : Prop :=
  ∀ p, Within n p → Within n (next p) ∧
    ∀ j, (next p).testBit j = true ↔ ∃ i, p.testBit i = true ∧ R i j

theorem half_of_double_add (x : Nat) (b : Bool) : (2 * x + b.toNat) / 2 = x := by
  have hb : b.toNat < 2 := Bool.toNat_lt b
  omega

theorem testBit_placesOf (bs : List Bool) (i : Nat) :
    (placesOf bs).testBit i = (bs[i]?).getD false := by
  induction bs generalizing i with
  | nil => simp [placesOf]
  | cons b bs ih =>
      cases i with
      | zero =>
          rw [placesOf, Nat.testBit_zero]
          cases b <;> simp
      | succ i =>
          rw [placesOf, Nat.testBit_succ, half_of_double_add, ih]
          rfl

theorem testBit_allPlaces (n i : Nat) : (allPlaces n).testBit i = decide (i < n + 1) :=
  Nat.testBit_two_pow_sub_one (n + 1) i

/-! ### Going on and on -/

variable {n : Nat} {R S : Nat → Nat → Prop} {next : Places → Places}

theorem carries_comp {other : Places → Places} (hR : Carries n R next) (hS : Carries n S other) :
    Carries n (fun i k => ∃ j, R i j ∧ S j k) (fun p => other (next p)) := by
  intro p hp
  obtain ⟨hnext, hmem⟩ := hR p hp
  obtain ⟨hother, hmem'⟩ := hS (next p) hnext
  refine ⟨hother, fun k => ?_⟩
  simp only [hmem', hmem]
  constructor
  · rintro ⟨j, ⟨i, hi, hij⟩, hjk⟩
    exact ⟨i, hi, j, hij, hjk⟩
  · rintro ⟨i, hi, j, hij, hjk⟩
    exact ⟨j, ⟨i, hi, hij⟩, hjk⟩

theorem carries_or {other : Places → Places} (hR : Carries n R next) (hS : Carries n S other) :
    Carries n (fun i j => R i j ∨ S i j) (fun p => next p ||| other p) := by
  intro p hp
  obtain ⟨hnext, hmem⟩ := hR p hp
  obtain ⟨hother, hmem'⟩ := hS p hp
  have hor : ∀ j, (next p ||| other p).testBit j = true
      ↔ (next p).testBit j = true ∨ (other p).testBit j = true := by
    intro j
    rw [Nat.testBit_or, Bool.or_eq_true]
  refine ⟨?_, fun j => ?_⟩
  · intro j hj
    rcases (hor j).mp hj with h | h
    · exact hnext j h
    · exact hother j h
  · rw [hor, hmem, hmem']
    constructor
    · rintro (⟨i, hi, h⟩ | ⟨i, hi, h⟩)
      · exact ⟨i, hi, Or.inl h⟩
      · exact ⟨i, hi, Or.inr h⟩
    · rintro ⟨i, hi, h | h⟩
      · exact Or.inl ⟨i, hi, h⟩
      · exact Or.inr ⟨i, hi, h⟩

theorem carries_id (n : Nat) : Carries n (fun i j => j = i) (fun p => p) := by
  intro p hp
  refine ⟨hp, fun j => ?_⟩
  simp

theorem carries_iterate (h : Carries n R next) (count : Nat) :
    Carries n (inRow R count) (next^[count]) := by
  induction count with
  | zero => exact carries_id n
  | succ count ih =>
      intro p hp
      exact carries_comp h ih p hp

theorem advance_eq_iterate (next : Places → Places) (count : Nat) (p : Places) :
    advance next count p = next^[count] p := by
  induction count generalizing p with
  | zero => rfl
  | succ count ih =>
      rw [advance]
      by_cases hp : next p = p
      · rw [if_pos hp, Function.iterate_fixed hp]
      · rw [if_neg hp, ih]
        rfl

theorem advanceUpTo_eq_iterate (next : Places → Places) (count : Nat) (p : Places) :
    advanceUpTo next count p = (fun q => q ||| next q)^[count] p := by
  induction count generalizing p with
  | zero => rfl
  | succ count ih =>
      rw [advanceUpTo]
      by_cases hp : p ||| next p = p
      · rw [if_pos hp, Function.iterate_fixed hp]
      · rw [if_neg hp, ih]
        rfl

theorem inRow_add (R : Nat → Nat → Prop) (a b i k : Nat) :
    inRow R (a + b) i k ↔ ∃ j, inRow R a i j ∧ inRow R b j k := by
  induction a generalizing i with
  | zero => simp [inRow]
  | succ a ih =>
      rw [show a + 1 + b = (a + b) + 1 by omega]
      simp only [inRow, ih]
      constructor
      · rintro ⟨j, hij, l, hjl, hlk⟩
        exact ⟨l, ⟨j, hij, hjl⟩, hlk⟩
      · rintro ⟨l, ⟨j, hij, hjl⟩, hlk⟩
        exact ⟨j, hij, l, hjl, hlk⟩

/-- To stay or to go on, so many times, is to go on at most so many times. -/
theorem inRow_stay_or (R : Nat → Nat → Prop) (count i k : Nat) :
    inRow (fun i j => j = i ∨ R i j) count i k ↔ ∃ m, m ≤ count ∧ inRow R m i k := by
  induction count generalizing i with
  | zero => simp [inRow]
  | succ count ih =>
      rw [inRow]
      constructor
      · rintro ⟨j, hij, hjk⟩
        obtain ⟨m, hm, hrow⟩ := (ih j).mp hjk
        rcases hij with rfl | hij
        · exact ⟨m, by omega, hrow⟩
        · exact ⟨m + 1, by omega, j, hij, hrow⟩
      · rintro ⟨m, hm, hrow⟩
        cases m with
        | zero => exact ⟨i, Or.inl rfl, (ih i).mpr ⟨0, by omega, hrow⟩⟩
        | succ m =>
            obtain ⟨j, hij, hjk⟩ := hrow
            exact ⟨j, Or.inr hij, (ih j).mpr ⟨m, by omega, hjk⟩⟩

/-- Adding places as far as the relation leads, so many rounds. -/
theorem carries_grow (h : Carries n R next) (count : Nat) :
    Carries n (fun i j => ∃ m, m ≤ count ∧ inRow R m i j)
      (fun q => q ||| next q)^[count] := by
  intro p hp
  obtain ⟨hwithin, hmem⟩ := carries_iterate (carries_or (carries_id n) h) count p hp
  refine ⟨hwithin, fun j => ?_⟩
  rw [hmem]
  simp only [inRow_stay_or]

/-! ### As many rounds as there are places are enough -/

/-- How many places there are in a set. -/
def placeCount (n : Nat) (p : Places) : Nat :=
  ((Finset.range (n + 1)).filter fun i => p.testBit i = true).card

theorem placeCount_le (n : Nat) (p : Places) : placeCount n p ≤ n + 1 :=
  (Finset.card_filter_le _ _).trans (by rw [Finset.card_range])

/-- A set that gains places without growing in number is the same set. -/
theorem eq_of_placeCount_eq {p q : Places} (hq : Within n q)
    (hsub : ∀ i, p.testBit i = true → q.testBit i = true)
    (hcount : placeCount n p = placeCount n q) : p = q := by
  have hfilter := Finset.eq_of_subset_of_card_le
    (Finset.monotone_filter_right (Finset.range (n + 1)) fun i _ hi => hsub i hi) hcount.ge
  refine Nat.eq_of_testBit_eq fun i => ?_
  by_cases hi : q.testBit i = true
  · have hmem : i ∈ (Finset.range (n + 1)).filter fun i => q.testBit i = true := by
      simp [hi, Nat.lt_succ_of_le (hq i hi)]
    rw [← hfilter] at hmem
    rw [hi, (Finset.mem_filter.mp hmem).2]
  · have hp : ¬ p.testBit i = true := fun h => hi (hsub i h)
    simp_all

/-- Growing comes to an end within `n + 1` rounds. -/
theorem grow_saturates (h : Carries n R next) {p : Places} (hp : Within n p) {count : Nat}
    (hcount : n + 1 ≤ count) :
    (fun q => q ||| next q)^[count] p = (fun q => q ||| next q)^[n + 1] p := by
  set grow : Places → Places := fun q => q ||| next q with hgrow
  have hwithin : ∀ m, Within n (grow^[m] p) := fun m => (carries_grow h m p hp).1
  have hstep : ∀ m i, (grow^[m] p).testBit i = true → (grow^[m + 1] p).testBit i = true := by
    intro m i hi
    rw [Function.iterate_succ_apply', hgrow, Nat.testBit_or, ← hgrow, hi, Bool.true_or]
  have hsub : ∀ m i, (grow^[n + 1] p).testBit i = true →
      (grow^[n + 1 + m] p).testBit i = true := by
    intro m i hi
    induction m with
    | zero => exact hi
    | succ m ih => exact hstep _ i ih
  have hmono : Monotone fun m => placeCount n (grow^[m] p) := by
    refine monotone_nat_of_le_succ fun m => Finset.card_le_card ?_
    exact Finset.monotone_filter_right _ fun i _ hi => hstep m i hi
  -- Once a round adds nothing, the next one starts from the same set.
  have hstable : ∀ m, placeCount n (grow^[m] p) = placeCount n (grow^[m + 1] p) →
      placeCount n (grow^[m + 1] p) = placeCount n (grow^[m + 2] p) := by
    intro m hm
    have hsame := eq_of_placeCount_eq (hwithin (m + 1)) (hstep m) hm
    rw [Function.iterate_succ_apply' grow (m + 1), ← hsame, ← Function.iterate_succ_apply' grow m]
    exact hm
  have hsaturated := Nat.stabilises_of_monotone hmono (fun m => placeCount_le n _) hstable hcount
  obtain ⟨m, rfl⟩ := Nat.exists_eq_add_of_le hcount
  exact (eq_of_placeCount_eq (hwithin (n + 1 + m)) (hsub m) hsaturated.symm).symm

/-- Growing for `n + 1` rounds reaches all that any number of rounds reaches. -/
theorem carries_grow_all (h : Carries n R next) :
    Carries n (fun i j => ∃ m, inRow R m i j) (fun q => q ||| next q)^[n + 1] := by
  intro p hp
  obtain ⟨hwithin, hmem⟩ := carries_grow h (n + 1) p hp
  refine ⟨hwithin, fun j => ?_⟩
  constructor
  · intro hj
    obtain ⟨i, hi, m, -, hrow⟩ := (hmem j).mp hj
    exact ⟨i, hi, m, hrow⟩
  · rintro ⟨i, hi, m, hrow⟩
    rw [← grow_saturates h hp (Nat.le_max_right m (n + 1))]
    exact ((carries_grow h (max m (n + 1)) p hp).2 j).mpr
      ⟨i, hi, m, Nat.le_max_left m (n + 1), hrow⟩

/-! ### Plans -/

theorem carries_step (text : List Char) (s : CharSet) :
    Carries text.length (Matches text (.chars s))
      ((Plan.step (placesOf (text.map s.contains))).ends text.length) := by
  intro p hp
  have hmem : ∀ j, (2 * (p &&& placesOf (text.map s.contains))).testBit j = true
      ↔ ∃ i, p.testBit i = true ∧ Matches text (.chars s) i j := by
    intro j
    cases j with
    | zero => simp [Nat.testBit_zero, Matches]
    | succ j =>
        rw [Nat.testBit_succ, Nat.mul_div_cancel_left _ (by omega), Nat.testBit_and,
          testBit_placesOf]
        simp only [Matches, Bool.and_eq_true, List.getElem?_map]
        constructor
        · rintro ⟨hj, hs⟩
          cases hc : text[j]? with
          | none => simp [hc] at hs
          | some c => exact ⟨j, hj, rfl, c, hc, by simpa [hc] using hs⟩
        · rintro ⟨i, hi, heq, c, hc, hs⟩
          obtain rfl : j = i := by omega
          exact ⟨hi, by simp [hc, hs]⟩
  refine ⟨fun j hj => ?_, hmem⟩
  obtain ⟨i, -, rfl, c, hc, -⟩ := (hmem j).mp hj
  obtain ⟨hi, -⟩ := List.getElem?_eq_some_iff.mp hc
  exact hi

theorem getElem?_lookAlong (l : Look) (text : List Char) (before : Option Char) (i : Nat) :
    (lookAlong l before text)[i]?
      = if i ≤ text.length then
          some (l.holds (if i = 0 then before else text[i - 1]?) text[i]?)
        else none := by
  induction text generalizing before i with
  | nil => cases i <;> simp [lookAlong]
  | cons c cs ih =>
      cases i with
      | zero => simp [lookAlong]
      | succ i =>
          rw [lookAlong, List.getElem?_cons_succ, ih]
          cases i <;> simp

theorem carries_keep (text : List Char) (l : Look) :
    Carries text.length (Matches text (.look l))
      ((Plan.keep (placesOf (lookAlong l none text))).ends text.length) := by
  intro p hp
  have hmem : ∀ j, (p &&& placesOf (lookAlong l none text)).testBit j = true
      ↔ ∃ i, p.testBit i = true ∧ Matches text (.look l) i j := by
    intro j
    rw [Nat.testBit_and, testBit_placesOf, getElem?_lookAlong, Bool.and_eq_true]
    simp only [Matches, charBefore]
    constructor
    · rintro ⟨hj, hl⟩
      rw [if_pos (hp j hj)] at hl
      exact ⟨j, hj, rfl, hl⟩
    · rintro ⟨i, hi, rfl, hl⟩
      exact ⟨hi, by rw [if_pos (hp _ hi)]; exact hl⟩
  refine ⟨fun j hj => ?_, hmem⟩
  obtain ⟨i, hi, rfl, -⟩ := (hmem j).mp hj
  exact hp _ hi

theorem carries_times (h : Carries n R next) (low : Nat) (high : Option Nat) :
    Carries n
      (fun i j => ∃ count, low ≤ count ∧ (∀ m, high = some m → count ≤ max low m) ∧
        inRow R count i j)
      (fun p =>
        match high with
        | none => advanceUpTo next (n + 1) (advance next low p)
        | some m => advanceUpTo next (m - low) (advance next low p)) := by
  intro p hp
  simp only [advance_eq_iterate, advanceUpTo_eq_iterate]
  cases high with
  | none =>
      obtain ⟨hwithin, hmem⟩ := carries_comp (carries_iterate h low) (carries_grow_all h) p hp
      refine ⟨hwithin, fun j => (hmem j).trans ?_⟩
      constructor
      · rintro ⟨i, hi, k, hik, more, hkj⟩
        exact ⟨i, hi, low + more, by omega, by simp, (inRow_add R low more i j).mpr ⟨k, hik, hkj⟩⟩
      · rintro ⟨i, hi, count, hlow, -, hrow⟩
        obtain ⟨more, rfl⟩ := Nat.exists_eq_add_of_le hlow
        obtain ⟨k, hik, hkj⟩ := (inRow_add R low more i j).mp hrow
        exact ⟨i, hi, k, hik, more, hkj⟩
  | some m =>
      obtain ⟨hwithin, hmem⟩ :=
        carries_comp (carries_iterate h low) (carries_grow h (m - low)) p hp
      refine ⟨hwithin, fun j => (hmem j).trans ?_⟩
      constructor
      · rintro ⟨i, hi, k, hik, more, hmore, hkj⟩
        refine ⟨i, hi, low + more, by omega, ?_, (inRow_add R low more i j).mpr ⟨k, hik, hkj⟩⟩
        intro m' hm'
        obtain rfl : m = m' := by simpa using hm'
        omega
      · rintro ⟨i, hi, count, hlow, hhigh, hrow⟩
        obtain ⟨more, rfl⟩ := Nat.exists_eq_add_of_le hlow
        obtain ⟨k, hik, hkj⟩ := (inRow_add R low more i j).mp hrow
        have hle : low + more ≤ max low m := hhigh m rfl
        exact ⟨i, hi, k, hik, more, by omega, hkj⟩

/-- **Matching finds what there is.** -/
theorem carries_ends (text : List Char) (r : Regex) :
    Carries text.length (r.Matches text) ((plan text r).ends text.length) := by
  induction r with
  | empty => exact carries_id text.length
  | chars s => exact carries_step text s
  | look l => exact carries_keep text l
  | seq a b iha ihb => exact fun p hp => carries_comp iha ihb p hp
  | alt a b iha ihb => exact fun p hp => carries_or iha ihb p hp
  | times inner min max ih => exact fun p hp => carries_times ih min max p hp

/-- A pattern matches somewhere in a text if it does from one of its places. -/
theorem isMatch_iff (r : Regex) (text : List Char) :
    r.isMatch text = true ↔ ∃ i j, i ≤ text.length ∧ r.Matches text i j := by
  have hall : Within text.length (allPlaces text.length) := by
    intro i hi
    rw [testBit_allPlaces, decide_eq_true_eq] at hi
    omega
  have hmem := (carries_ends text r (allPlaces text.length) hall).2
  rw [isMatch, ends, decide_eq_true_eq]
  constructor
  · intro hne
    obtain ⟨j, hj⟩ := Nat.exists_testBit_of_ne_zero hne
    obtain ⟨i, hi, hij⟩ := (hmem j).mp hj
    exact ⟨i, j, hall i hi, hij⟩
  · rintro ⟨i, j, hi, hij⟩ hzero
    have hbit := (hmem j).mpr ⟨i, by rw [testBit_allPlaces]; simp; omega, hij⟩
    rw [hzero, Nat.zero_testBit] at hbit
    cases hbit

end NameLint.Regex

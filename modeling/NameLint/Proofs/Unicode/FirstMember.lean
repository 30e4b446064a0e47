/-
Where sets of characters begin.

The large sets are put together from the sets of the character database, by steps that sort
and join ranges.  None of these steps makes a range begin earlier than those it was made
of, so a bound for the first characters of the parts is one for the whole.
-/
import Mathlib.Data.List.Basic
import NameLint.Unicode.Binary

namespace NameLint.CharSet

variable {n : Nat} {s t : CharSet} {ranges : List (Nat × Nat)}

/-- That all ranges begin behind a code point. -/
def StartsAbove (n : Nat) (ranges : List (Nat × Nat)) : Prop :=
  ∀ r ∈ ranges, n < r.1

instance (n : Nat) (ranges : List (Nat × Nat)) : Decidable (StartsAbove n ranges) :=
  inferInstanceAs (Decidable (∀ r ∈ ranges, n < r.1))

theorem StartsAbove.append {more : List (Nat × Nat)} (h : StartsAbove n ranges)
    (hmore : StartsAbove n more) : StartsAbove n (ranges ++ more) := by
  intro r hr
  rcases List.mem_append.mp hr with hr | hr
  · exact h r hr
  · exact hmore r hr

/-- A set holds nothing up to a code point behind which it begins. -/
theorem holds_of_startsAbove (h : StartsAbove n s.ranges) {m : Nat} (hm : m ≤ n) :
    s.holds m = false := by
  unfold holds
  cases hranges : s.ranges with
  | nil => rfl
  | cons r rest =>
      have hfirst : n < r.1 := h r (by simp [hranges])
      rw [rangesContain, if_pos (by omega)]

/-! ### Written sets -/

/-- A literal is read without decoding it first: its characters are there. -/
theorem startsAbove_ofText {cs : List Char} (h : StartsAbove n (readRanges cs none none)) :
    StartsAbove n (ofText (String.ofList cs)).ranges := by
  rw [ofText, String.toList_ofList]
  exact h

/-! ### Sets made of sets -/

theorem startsAbove_coalesce (h : StartsAbove n ranges) : StartsAbove n (coalesce ranges) := by
  induction ranges with
  | nil => exact h
  | cons r rest ih =>
      obtain ⟨lo, hi⟩ := r
      have hlo : n < lo := h (lo, hi) List.mem_cons_self
      have hrest : StartsAbove n (coalesce rest) := ih fun r hr => h r (List.mem_cons_of_mem _ hr)
      unfold coalesce
      cases hjoined : coalesce rest with
      | nil => simpa [StartsAbove] using hlo
      | cons next joined =>
          rw [hjoined] at hrest
          by_cases htouch : next.1 ≤ hi + 1
          · -- The joined range begins where the first of the two does.
            have hbehind : StartsAbove n joined := fun r hr => hrest r (List.mem_cons_of_mem _ hr)
            simpa [StartsAbove, htouch, hlo] using hbehind
          · simpa [StartsAbove, htouch, hlo] using hrest

theorem startsAbove_ofRanges (h : StartsAbove n ranges) :
    StartsAbove n (ofRanges ranges).ranges := by
  refine startsAbove_coalesce ?_
  intro r hr
  exact h r (List.mem_mergeSort.mp hr)

theorem startsAbove_unions {sets : List CharSet}
    (h : sets.Forall fun s => StartsAbove n s.ranges) : StartsAbove n (unions sets).ranges := by
  refine startsAbove_ofRanges ?_
  intro r hr
  obtain ⟨s, hs, hr⟩ := List.mem_flatMap.mp hr
  exact List.forall_iff_forall_mem.mp h s hs r hr

theorem startsAbove_union (hs : StartsAbove n s.ranges) (ht : StartsAbove n t.ranges) :
    StartsAbove n (s.union t).ranges := by
  unfold union
  split
  · exact ht
  · split
    · exact hs
    · exact startsAbove_ofRanges (hs.append ht)

end NameLint.CharSet

namespace NameLint.Property

open CharSet

/-! ### Letters and numbers -/

set_option maxRecDepth 100000 in
theorem startsAbove_otherLetter : StartsAbove 0x2F Category.otherLetter.ranges :=
  startsAbove_ofText (by decide +kernel)

set_option maxRecDepth 50000 in
theorem startsAbove_uppercase : StartsAbove 0x2F uppercase.ranges :=
  startsAbove_unions
    ⟨startsAbove_ofText (by decide +kernel), startsAbove_ofText (by decide +kernel)⟩

set_option maxRecDepth 50000 in
theorem startsAbove_lowercase : StartsAbove 0x2F lowercase.ranges :=
  startsAbove_unions
    ⟨startsAbove_ofText (by decide +kernel), startsAbove_ofText (by decide +kernel)⟩

theorem startsAbove_cased : StartsAbove 0x2F cased.ranges :=
  startsAbove_unions
    ⟨startsAbove_uppercase, startsAbove_lowercase, startsAbove_ofText (by decide +kernel)⟩

set_option maxRecDepth 50000 in
theorem startsAbove_alphabetic : StartsAbove 0x2F alphabetic.ranges :=
  startsAbove_unions
    ⟨startsAbove_cased, startsAbove_ofText (by decide +kernel), startsAbove_otherLetter,
      startsAbove_ofText (by decide +kernel), startsAbove_ofText (by decide +kernel)⟩

set_option maxRecDepth 50000 in
theorem startsAbove_number : StartsAbove 0x2F Category.number.ranges :=
  startsAbove_unions
    ⟨startsAbove_ofText (by decide +kernel), startsAbove_ofText (by decide +kernel),
      startsAbove_ofText (by decide +kernel)⟩

/-- **Letters and numbers begin with the digit zero.** -/
theorem startsAbove_alphanumeric : StartsAbove 0x2F alphanumeric.ranges :=
  startsAbove_union startsAbove_alphabetic startsAbove_number

end NameLint.Property

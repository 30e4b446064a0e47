/-
Sets of characters as lists of code point ranges.

Everything that classifies characters in this library, from blanks to the classes of a
pattern, is such a set: ascending ranges that neither touch nor overlap, ends included.
The surrogate code points belong to no set, since no text holds them.

The large sets of the character database are written as text, ranges of hexadecimal
numbers separated by blanks or line ends, which `ofText` reads.
-/

namespace NameLint

/-- A set of characters, as ascending ranges of code points with both ends included. -/
structure CharSet where
  /-- The ranges, none of which touches the next. -/
  ranges : List (Nat × Nat)
deriving DecidableEq, Repr

namespace CharSet

/-! ### Membership -/

/-- Whether one of the ascending ranges holds the code point. -/
def rangesContain : List (Nat × Nat) → Nat → Bool
  | [], _ => false
  | (lo, hi) :: rest, n => if n < lo then false else n ≤ hi || rangesContain rest n

/-- Whether the set holds the code point. -/
def holds (s : CharSet) (n : Nat) : Bool :=
  rangesContain s.ranges n

/-- Whether the set holds the character. -/
def contains (s : CharSet) (c : Char) : Bool :=
  s.holds c.toNat

/-! ### Building sets -/

/-- The set without characters. -/
def empty : CharSet := ⟨[]⟩

/-- The set of every character. -/
def all : CharSet := ⟨[(0, 0xD7FF), (0xE000, 0x10FFFF)]⟩

/-- The characters from `lo` to `hi`. -/
def range (lo hi : Nat) : CharSet := ⟨[(lo, hi)]⟩

/-- The set of one character. -/
def single (n : Nat) : CharSet := range n n

/-- Joins ascending ranges that touch or overlap. -/
def coalesce : List (Nat × Nat) → List (Nat × Nat)
  | [] => []
  | (lo, hi) :: rest =>
    match coalesce rest with
    | [] => [(lo, hi)]
    | (lo', hi') :: rest' =>
      if lo' ≤ hi + 1 then (lo, max hi hi') :: rest' else (lo, hi) :: (lo', hi') :: rest'

/-- The set of all characters in any of the ranges, which may come in any order. -/
def ofRanges (ranges : List (Nat × Nat)) : CharSet :=
  ⟨coalesce (ranges.mergeSort fun a b => a.1 ≤ b.1)⟩

/-- The value of a hexadecimal digit; zero for any other character. -/
def hexValue (c : Char) : Nat :=
  if '0' ≤ c ∧ c ≤ '9' then c.toNat - '0'.toNat
  else if 'A' ≤ c ∧ c ≤ 'F' then c.toNat - 'A'.toNat + 10
  else if 'a' ≤ c ∧ c ≤ 'f' then c.toNat - 'a'.toNat + 10
  else 0

/-- The range from `low` to `n`, which is `low` itself where only one end is written. -/
def writtenRange (low n : Option Nat) : List (Nat × Nat) :=
  n.toList.map fun hi => (low.getD hi, hi)

/-- Reads ranges separated by blanks; `low` and `n` are the ends of the range being read. -/
def readRanges : List Char → Option Nat → Option Nat → List (Nat × Nat)
  | [], low, n => writtenRange low n
  | c :: cs, low, n =>
    if c = ' ' ∨ c = '\n' then writtenRange low n ++ readRanges cs none none
    else if c = '-' then readRanges cs n none
    else readRanges cs low (some (16 * n.getD 0 + hexValue c))

/-- The set written as ascending hexadecimal ranges, such as `30-39 41-5A 5F`. -/
def ofText (text : String) : CharSet :=
  ⟨readRanges text.toList none none⟩

/-! ### Set operations -/

/-- The gaps between ascending ranges, from `lo` on. -/
def gaps : Nat → List (Nat × Nat) → List (Nat × Nat)
  | lo, [] => if lo ≤ 0x10FFFF then [(lo, 0x10FFFF)] else []
  | lo, (a, b) :: rest => if lo < a then (lo, a - 1) :: gaps (b + 1) rest else gaps (b + 1) rest

/-- The characters in either set. -/
def union (s t : CharSet) : CharSet :=
  if s.ranges.isEmpty then t else if t.ranges.isEmpty then s else ofRanges (s.ranges ++ t.ranges)

/-- The characters outside the set. -/
def complement (s : CharSet) : CharSet :=
  ⟨gaps 0 (s.union ⟨[(0xD800, 0xDFFF)]⟩).ranges⟩

/-- The characters in both sets. -/
def inter (s t : CharSet) : CharSet :=
  (s.complement.union t.complement).complement

/-- The characters of the first set that the second lacks. -/
def minus (s t : CharSet) : CharSet :=
  (s.complement.union t).complement

/-- The characters in exactly one of the sets. -/
def symmDiff (s t : CharSet) : CharSet :=
  (s.union t).minus (s.inter t)

/-- The characters in any of the sets. -/
def unions (sets : List CharSet) : CharSet :=
  ofRanges (sets.flatMap CharSet.ranges)

end CharSet

end NameLint

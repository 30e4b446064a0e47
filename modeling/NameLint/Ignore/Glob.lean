/-
Globs: patterns for paths.

A question mark stands for one byte and a star for any number of bytes, none of them a
slash; two stars that fill a component stand for any number of components.  Brackets hold
a set of characters, braces hold alternatives, and a backslash takes the meaning from the
character after it.

A glob is matched by computing what it can leave of a path.  Every remainder is an end of
the path, so there are never more of them than the path has bytes, and one.
-/

namespace NameLint

/-- A pattern for paths. -/
inductive Glob where
  /-- Nothing. -/
  | empty
  /-- The given byte. -/
  | byte (b : UInt8)
  /-- One byte that is no slash. -/
  | one
  /-- Any number of bytes that are no slashes. -/
  | many
  /-- One byte in the ranges, or outside of them. -/
  | oneOf (negated : Bool) (ranges : List (UInt8 × UInt8))
  /-- Anything at all. -/
  | anything
  /-- Any number of components at the start, each with its slash; or just a slash. -/
  | leading
  /-- A slash, or any number of components between two slashes. -/
  | between
  /-- A slash and anything after it. -/
  | inside
  /-- The one and then the other. -/
  | seq (first second : Glob)
  /-- The one or the other. -/
  | either (first second : Glob)
deriving DecidableEq, Repr

namespace Glob

/-! ### Matching -/

/-- The byte that separates components. -/
def slash : UInt8 := 47

/-- All ends of a text, the text itself first. -/
def ends : List UInt8 → List (List UInt8)
  | [] => [[]]
  | b :: bs => (b :: bs) :: ends bs

/-- The ends of a text that bytes other than slashes lead to. -/
def endsInComponent : List UInt8 → List (List UInt8)
  | [] => [[]]
  | b :: bs => (b :: bs) :: if b = slash then [] else endsInComponent bs

/-- The ends of a text right after a slash. -/
def endsAfterSlash : List UInt8 → List (List UInt8)
  | [] => []
  | b :: bs => if b = slash then bs :: endsAfterSlash bs else endsAfterSlash bs

/-- What the glob can leave of a text. -/
def rests : Glob → List UInt8 → List (List UInt8)
  | empty, s => [s]
  | anything, s => ends s
  | many, s => endsInComponent s
  | leading, s => s :: endsAfterSlash s
  | seq g h, s => ((g.rests s).flatMap h.rests).eraseDups
  | either g h, s => (g.rests s ++ h.rests s).eraseDups
  | _, [] => []
  | byte b, c :: s => if c = b then [s] else []
  | one, c :: s => if c = slash then [] else [s]
  | oneOf negated ranges, c :: s =>
    if (ranges.any fun r => r.1 ≤ c ∧ c ≤ r.2) = negated then [] else [s]
  | between, c :: s => if c = slash then s :: endsAfterSlash s else []
  | inside, c :: s => if c = slash then ends s else []

/-- Whether the glob stands for the whole text. -/
def accepts (g : Glob) (s : List UInt8) : Bool :=
  (g.rests s).contains []

/-! ### Pieces -/

/-- The globs one after another; an empty one does not count. -/
def ofPieces (pieces : List Glob) : Glob :=
  match pieces.filter (· ≠ empty) with
  | [] => empty
  | g :: gs => gs.foldl seq g

/-- One of the globs; an empty one does not count. -/
def ofBranches (branches : List Glob) : Glob :=
  match branches.filter (· ≠ empty) with
  | [] => empty
  | g :: gs => gs.foldl either g

/-- The glob for a character. -/
def literal (c : Char) : Glob :=
  ofPieces ((String.utf8EncodeChar c).map byte)

/-- The bytes of a range of characters.  Only between the last byte of the one and the first
byte of the other does it stretch over what lies between. -/
def byteRanges (r : Char × Char) : List (UInt8 × UInt8) :=
  let low := String.utf8EncodeChar r.1
  let high := String.utf8EncodeChar r.2
  if r.1 = r.2 then low.map fun b => (b, b)
  else
    low.dropLast.map (fun b => (b, b)) ++ [(low.getLast?.getD 0, high.headD 0)] ++
      high.tail.map fun b => (b, b)

end Glob

end NameLint

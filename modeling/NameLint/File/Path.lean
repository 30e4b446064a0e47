/-
Paths.

A path is a row of bytes.  Its components are separated by slashes; empty components and `.`
name nothing and are passed over, so `a//b/.` ends in `b`; a path that ends in `..` has no
file name.

The bytes of a path need not be UTF-8, and only if they are is the path a text, which a
document can hold.  Any path can be shown: what is ill-formed in it is then replaced.
-/

namespace NameLint

/-- A path. -/
structure Path where
  /-- Its bytes. -/
  bytes : List UInt8
deriving DecidableEq, Repr, Inhabited

namespace Path

/-! ### Texts -/

/-- The path that is written as a text. -/
def ofText (text : String) : Path :=
  ⟨text.toUTF8.data.toList⟩

instance : Coe String Path := ⟨ofText⟩

/-- The text that the path is, if it is one. -/
def text? (path : Path) : Option String :=
  String.fromUTF8? ⟨path.bytes.toArray⟩

/-! ### Showing -/

/-- The beginning of a character that takes several bytes. -/
structure Begun where
  /-- The bytes that are there. -/
  held : List UInt8
  /-- The least byte that may come next. -/
  least : UInt8
  /-- The greatest byte that may come next. -/
  greatest : UInt8
  /-- The number of bytes to come after that one. -/
  left : Nat

/-- What stands for a part that is ill-formed. -/
def replacement : Char := '\uFFFD'

/-- The beginning of a character with that first byte, if there are such characters. -/
def Begun.ofFirst? (b : UInt8) : Option Begun :=
  if 0xC2 ≤ b ∧ b ≤ 0xDF then some ⟨[b], 0x80, 0xBF, 0⟩
  else if b = 0xE0 then some ⟨[b], 0xA0, 0xBF, 1⟩
  else if b = 0xED then some ⟨[b], 0x80, 0x9F, 1⟩
  else if 0xE1 ≤ b ∧ b ≤ 0xEF then some ⟨[b], 0x80, 0xBF, 1⟩
  else if b = 0xF0 then some ⟨[b], 0x90, 0xBF, 2⟩
  else if 0xF1 ≤ b ∧ b ≤ 0xF3 then some ⟨[b], 0x80, 0xBF, 2⟩
  else if b = 0xF4 then some ⟨[b], 0x80, 0x8F, 2⟩
  else none

/-- What a byte shows where no character has begun, and what begins with it. -/
def showFirst (b : UInt8) : List Char × Option Begun :=
  if b < 0x80 then ([Char.ofNat b.toNat], none)
  else
    match Begun.ofFirst? b with
    | some begun => ([], some begun)
    | none => ([replacement], none)

/-- What a byte shows after the beginning of a character, and what has begun then.  A byte that
does not go on with the character stands for itself. -/
def showNext (c : Begun) (b : UInt8) : List Char × Option Begun :=
  if c.least ≤ b ∧ b ≤ c.greatest then
    match c.left with
    | 0 => (((text? ⟨c.held ++ [b]⟩).map String.toList).getD [replacement], none)
    | left + 1 => ([], some ⟨c.held ++ [b], 0x80, 0xBF, left⟩)
  else
    let (shown, begun) := showFirst b
    (replacement :: shown, begun)

/-- What bytes show after the beginning of a character, if one has begun.  The longest part that
could have become a character is replaced as a whole. -/
def showFrom : Option Begun → List UInt8 → List Char
  | none, [] => []
  | some _, [] => [replacement]
  | none, b :: bs => (showFirst b).1 ++ showFrom (showFirst b).2 bs
  | some c, b :: bs => (showNext c b).1 ++ showFrom (showNext c b).2 bs

/-- The path as it is shown. -/
def shown (path : Path) : String :=
  match path.text? with
  | some text => text
  | none => String.ofList (showFrom none path.bytes)

/-! ### Components -/

instance : Append Path := ⟨fun a b => ⟨a.bytes ++ b.bytes⟩⟩

/-- The byte between components. -/
def slash : UInt8 := 0x2F

/-- The pieces between slashes. -/
def pieces : List UInt8 → List (List UInt8)
  | [] => [[]]
  | b :: bs =>
    if b = slash then [] :: pieces bs
    else
      match pieces bs with
      | [] => [[b]]
      | p :: ps => (b :: p) :: ps

/-- The components that name something. -/
def components (path : Path) : List Path :=
  ((pieces path.bytes).map Path.mk).filter fun p => p ≠ "" ∧ p ≠ "."

/-- The path of the given components. -/
def ofComponents (names : List Path) : Path :=
  ⟨[slash].intercalate (names.map Path.bytes)⟩

/-- The last component, if it is a name. -/
def fileName? (path : Path) : Option Path :=
  (components path).getLast?.filter fun p => p ≠ ".."

/-- The file name as it is shown, or the whole path if there is none. -/
def baseName (path : Path) : String :=
  ((fileName? path).getD path).shown

/-- Whether the path starts at the root. -/
def isAbsolute (path : Path) : Bool :=
  path.bytes.head? = some slash

/-- The path of `name` seen from `base`. -/
def join (base name : Path) : Path :=
  if isAbsolute name || base.bytes.isEmpty then name
  else if base.bytes.getLast? = some slash then base ++ name
  else base ++ "/" ++ name

/-- The directory that holds the path's last component; empty for a bare name. -/
def parent (path : Path) : Path :=
  let root : Path := if isAbsolute path then "/" else ""
  root ++ ofComponents (components path).dropLast

/-- What follows the last dot of a name; a dot in front does not count. -/
def extensionOf (name : Path) : Option Path :=
  let reversed := name.bytes.reverse
  let after := reversed.takeWhile (· ≠ 0x2E)
  let before := (reversed.drop (after.length + 1)).reverse
  if before.isEmpty then none else some ⟨after.reverse⟩

/-- The extension of the file name. -/
def extension? (path : Path) : Option Path :=
  (fileName? path).bind extensionOf

end Path

end NameLint

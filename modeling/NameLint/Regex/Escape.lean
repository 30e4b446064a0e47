/-
Reading single parts of a pattern: characters, dots, anchors and escapes.

A letter or digit after a backslash is an escape only if it is listed here; any other
ASCII character after a backslash stands for itself, but for the angle brackets, which
are the edges of a word.
-/
import NameLint.Regex.Source

namespace NameLint.Regex

/-! ### Escaped characters -/

/-- Whether the character has a meaning of its own in patterns. -/
def isMeta (c : Char) : Bool :=
  "\\.+*?()|[]\x7b\x7d^$#&-~".toList.contains c

/-- Whether the character stands for itself after a backslash. -/
def standsForItself (c : Char) : Bool :=
  isMeta c || (c.toNat < 0x80 && !c.isAlphanum && c ≠ '<' && c ≠ '>')

/-- The control character that a letter stands for after a backslash. -/
def controlChar? (c : Char) : Option Char :=
  if c = 'a' then some '\x07'
  else if c = 'f' then some '\x0c'
  else if c = 't' then some '\t'
  else if c = 'n' then some '\n'
  else if c = 'r' then some '\r'
  else if c = 'v' then some '\x0b'
  else none

/-- The condition that a character stands for after a backslash. -/
def assertion? (c : Char) : Option Assertion :=
  if c = 'A' then some .textStart
  else if c = 'z' then some .textEnd
  else if c = 'b' then some .boundary
  else if c = 'B' then some .noBoundary
  else if c = '<' then some .wordStart
  else if c = '>' then some .wordEnd
  else none

/-- The class that a letter stands for after a backslash, and whether it is negated. -/
def shortClass? (c : Char) : Option (Bool × ShortClass) :=
  if c = 'd' then some (false, .digit)
  else if c = 's' then some (false, .space)
  else if c = 'w' then some (false, .word)
  else if c = 'D' then some (true, .digit)
  else if c = 'S' then some (true, .space)
  else if c = 'W' then some (true, .word)
  else none

/-! ### Word boundaries with a name -/

/-- Whether the character may stand in the name of a boundary. -/
def isBoundaryChar (c : Char) : Bool :=
  c.isAlpha || c = '-'

/-- The boundary of that name. -/
def boundary? (name : List Char) : Option Assertion :=
  if name = "start".toList then some .wordStart
  else if name = "end".toList then some .wordEnd
  else if name = "start-half".toList then some .wordStartHalf
  else if name = "end-half".toList then some .wordEndHalf
  else none

/-- Reads the name of a boundary; at most `fuel` characters. -/
def boundaryName (verbose : Bool) : Nat → Read (List Char)
  | 0 => return []
  | fuel + 1 => do
    match ← peek? with
    | some c =>
      if isBoundaryChar c then
        skipWithGap verbose
        return c :: (← boundaryName verbose fuel)
      else return []
    | none => return []

/--
Reads the name of a boundary in braces.  Braces that hold no name are left for the
repetition that they then must be.
-/
def namedBoundary (verbose : Bool) : Read Assertion := do
  let start ← rest
  if start.head? ≠ some '\x7b' then return .boundary
  skipWithGap verbose
  match ← peek? with
  | none => refuse .boundaryUnfinished
  | some c =>
    if ¬ isBoundaryChar c then
      goOn start
      return .boundary
    else
      let name ← boundaryName verbose (← rest).length
      if (← peek?) ≠ some '\x7d' then refuse .boundaryUnclosed
      skip
      match boundary? name with
      | some a => return a
      | none => refuse .boundaryUnknown

/-! ### Properties -/

/-- Reads the name of a property up to the closing brace; at most `fuel` characters with the
brace. -/
def propertyName (verbose : Bool) : Nat → Read (List Char)
  | 0 => refuse .escapeUnfinished
  | fuel + 1 => do
    skipWithGap verbose
    match ← peek? with
    | none => refuse .escapeUnfinished
    | some '\x7d' => return []
    | some c => return c :: (← propertyName verbose fuel)

/-- The texts before and after the first place where the separator stands. -/
def splitAtFirst (separator : List Char) : List Char → Option (List Char × List Char)
  | [] => none
  | c :: cs =>
    if separator.isPrefixOf (c :: cs) then some ([], (c :: cs).drop separator.length)
    else (splitAtFirst separator cs).map fun p => (c :: p.1, p.2)

/-- What the text between braces asks for. -/
def queryOf (name : List Char) : PropertyQuery :=
  match splitAtFirst ['!', '='] name <|> splitAtFirst [':'] name <|> splitAtFirst ['='] name with
  | some (name, value) => .valued name value
  | none => .named name

/-- Reads what a property escape asks for, from its letter on. -/
def propertyQuery (verbose : Bool) : Read PropertyQuery := do
  skipWithGap verbose
  match ← peek? with
  | none => refuse .escapeUnfinished
  | some '\x7b' =>
    let name ← propertyName verbose ((← rest).length + 1)
    skip
    return queryOf name
  | some '\\' => refuse .propertyInvalid
  | some c =>
    skipWithGap verbose
    return .letter c

/-! ### Escapes and other parts -/

/-- Reads an escape. -/
def escape (verbose : Bool) : Read Expr := do
  skip
  match ← peek? with
  | none => refuse .escapeUnfinished
  | some c =>
    if c.isDigit then refuse .backreference
    else if c = 'x' ∨ c = 'u' ∨ c = 'U' then return .literal (← hexEscape verbose c)
    else if c = 'p' ∨ c = 'P' then return .chars (.property (c = 'P') (← propertyQuery verbose))
    else
      skip
      if standsForItself c then return .literal ⟨c, false⟩
      else if c = 'b' then return .assertion (← namedBoundary verbose)
      else
        match controlChar? c, assertion? c, shortClass? c with
        | some d, _, _ => return .literal ⟨d, false⟩
        | _, some a, _ => return .assertion a
        | _, _, some (negated, s) => return .chars (.short negated s)
        | _, _, _ => refuse .escapeUnknown

/-- Reads a part that is no group, class or repetition. -/
def primitive (verbose : Bool) : Read Expr := do
  match ← peek? with
  | none => return .empty
  | some '\\' => escape verbose
  | some c =>
    skip
    return if c = '.' then .dot
      else if c = '^' then .assertion .lineStart
      else if c = '$' then .assertion .lineEnd
      else .literal ⟨c, false⟩

end NameLint.Regex

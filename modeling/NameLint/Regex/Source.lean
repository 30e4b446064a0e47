/-
Reading a pattern from the left.

A reading step takes what is left of the pattern, together with the group names given so
far, and ends with the first fault.  In verbose patterns blanks and comments may stand
between the parts; the steps that may pass over them take the flag as an argument.
-/
import NameLint.Regex.Syntax
import NameLint.Text.Basic

namespace NameLint.Regex

/-- A pattern while it is read. -/
structure Source where
  /-- What is left of it. -/
  rest : List Char
  /-- The names of its groups so far. -/
  names : List (List Char) := []
deriving Repr

/-- A reading step. -/
abbrev Read := StateT Source (Except PatternError)

/-- Ends reading with a fault. -/
def refuse {α : Type} (e : PatternError) : Read α := fun _ => .error e

/-- What is left. -/
def rest : Read (List Char) := do return (← get).rest

/-- Goes on with the given rest. -/
def goOn (cs : List Char) : Read Unit := modify fun s => { s with rest := cs }

/-- The next character, which stays. -/
def peek? : Read (Option Char) := do return (← rest).head?

/-- Whether nothing is left. -/
def atEnd : Read Bool := do return (← rest).isEmpty

/-- Passes over a character. -/
def skip : Read Unit := do goOn (← rest).tail

/-- Passes over the given characters if they come next, and says whether they do. -/
def skipIf (cs : List Char) : Read Bool := do
  let left ← rest
  if cs.isPrefixOf left then
    goOn (left.drop cs.length)
    return true
  else return false

/-- The text after its leading blanks and comments; `comment` inside a comment. -/
def afterGap : Bool → List Char → List Char
  | _, [] => []
  | true, c :: cs => afterGap (c ≠ '\n') cs
  | false, c :: cs =>
    if Text.isBlank c then afterGap false cs
    else if c = '#' then afterGap true cs
    else c :: cs

/-- Passes over blanks and comments in a verbose pattern. -/
def skipGap (verbose : Bool) : Read Unit := do
  if verbose then goOn (afterGap false (← rest))

/-- Passes over a character and the gap after it. -/
def skipWithGap (verbose : Bool) : Read Unit := do
  skip
  skipGap verbose

/-! ### Numbers -/

/-- Passes over blanks, in any pattern. -/
def skipBlanks : Read Unit := do
  goOn (Text.trimStart (← rest))

/-- Reads decimal digits, each with the gap after it; at most `fuel` of them. -/
def decimalDigits (verbose : Bool) : Nat → Read (List Char)
  | 0 => return []
  | fuel + 1 => do
    match ← peek? with
    | some c =>
      if c.isDigit then
        skipWithGap verbose
        return c :: (← decimalDigits verbose fuel)
      else return []
    | none => return []

/-- Passes over blanks, each with the gap after it; at most `fuel` of them. -/
def skipBlanksWithGaps (verbose : Bool) : Nat → Read Unit
  | 0 => return ()
  | fuel + 1 => do
    match ← peek? with
    | some c =>
      if Text.isBlank c then
        skipWithGap verbose
        skipBlanksWithGaps verbose fuel
    | none => return ()

/-- The number that digits of the given base give. -/
def numeral (base : Nat) (ds : List Char) : Nat :=
  ds.foldl (fun n c => n * base + (Text.hexDigit? c).getD 0) 0

/-- Reads a decimal number with blanks around it; a fault in it is for the caller to weigh. -/
def decimal (verbose : Bool) : Read (Except PatternError Nat) := do
  skipBlanks
  let ds ← decimalDigits verbose (← rest).length
  skipBlanksWithGaps verbose (← rest).length
  if ds.isEmpty then return .error .countEmpty
  let n := numeral 10 ds
  return if n < Nat.pow 2 32 then .ok n else .error .decimalInvalid

/-! ### Hexadecimal escapes -/

/-- The character with the given code point. -/
def hexChar (n : Nat) : Read Char :=
  match Text.scalar? n with
  | some c => return c
  | none => refuse .hexInvalid

/-- Reads the given number of hexadecimal digits, with gaps between them. -/
def fixedHexDigits (verbose : Bool) : Nat → Bool → Read (List Char)
  | 0, _ => return []
  | count + 1, first => do
    if ¬ first then skipWithGap verbose
    match ← peek? with
    | none => refuse .escapeUnfinished
    | some c =>
      if (Text.hexDigit? c).isNone then refuse .hexDigitInvalid
      return c :: (← fixedHexDigits verbose count false)

/-- Reads hexadecimal digits up to a closing brace; at most `fuel` characters with the brace. -/
def bracedHexDigits (verbose : Bool) : Nat → Read (List Char)
  | 0 => refuse .escapeUnfinished
  | fuel + 1 => do
    skipWithGap verbose
    match ← peek? with
    | none => refuse .escapeUnfinished
    | some '\x7d' => return []
    | some c =>
      if (Text.hexDigit? c).isNone then refuse .hexDigitInvalid
      return c :: (← bracedHexDigits verbose fuel)

/-- Reads the character of a hexadecimal escape from its letter on. -/
def hexEscape (verbose : Bool) (letter : Char) : Read Literal := do
  skipWithGap verbose
  match ← peek? with
  | none => refuse .escapeUnfinished
  | some '\x7b' =>
    let ds ← bracedHexDigits verbose ((← rest).length + 1)
    skipWithGap verbose
    if ds.isEmpty then refuse .hexEmpty
    return ⟨← hexChar (numeral 16 ds), false⟩
  | some _ =>
    let count := if letter = 'x' then 2 else if letter = 'u' then 4 else 8
    let ds ← fixedHexDigits verbose count true
    skipWithGap verbose
    return ⟨← hexChar (numeral 16 ds), letter = 'x'⟩

end NameLint.Regex

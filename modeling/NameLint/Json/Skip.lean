/-
Passing over a value that nobody asked for.

A record ignores the fields it does not know.  Their values must still be well formed,
but they may nest to any depth and their escapes need not name real characters, so they
are passed over without being read: what is left to close is kept on a list of open
brackets.
-/
import NameLint.Json.Container

namespace NameLint.Json

/-! ### Scalars -/

/-- Passes over the character at the front of a text; false at the closing quote. -/
def skipTextChar : Read Bool := fun cs =>
  match cs with
  | [] => .error .endInText
  | '"' :: rest => .ok (false, rest)
  | '\\' :: [] => .error .endInText
  | '\\' :: 'u' :: rest => ((fun _ => true) <$> hexEscape) rest
  | '\\' :: c :: rest => if (shortEscape? c).isSome then .ok (true, rest) else .error .invalidEscape
  | c :: rest => if c.toNat < 0x20 then .error .controlCharacter else .ok (true, rest)

/-- Passes over the characters up to the closing quote; each takes at least one of `fuel`. -/
def skipTextChars : Nat → Read Unit
  | 0 => throw .endInText
  | fuel + 1 => do
    if ← skipTextChar then skipTextChars fuel

/-- Passes over a text after its opening quote. -/
def skipText : Read Unit := fun cs =>
  skipTextChars (cs.length + 1) cs

/-- Passes over digits, of which there has to be one. -/
def skipDigits : Read Unit := fun cs =>
  if startsWithDigit cs then .ok ((), cs.dropWhile Char.isDigit) else .error .invalidNumber

/-- Passes over an exponent, if there is one. -/
def skipExponent : Read Unit
  | 'e' :: rest | 'E' :: rest =>
    skipDigits (if rest.head? = some '+' ∨ rest.head? = some '-' then rest.tail else rest)
  | cs => .ok ((), cs)

/-- Passes over a number after its sign. -/
def skipNumber : Read Unit := fun cs =>
  if cs.head? = some '0' ∧ startsWithDigit cs.tail then .error .invalidNumber
  else
    (do
      skipDigits
      let rest ← get
      if rest.head? = some '.' then
        set rest.tail
        skipDigits
      skipExponent) cs

/-! ### Containers -/

/-- A bracket that is still open. -/
inductive Bracket where
  | list
  | dict
deriving DecidableEq, Repr

/-- The character that closes a bracket. -/
def Bracket.closing : Bracket → Char
  | list => ']'
  | dict => '\x7d'

/-- The defect of a text that ends inside a bracket. -/
def Bracket.atEnd : Bracket → ReadError
  | list => .endInList
  | dict => .endInDict

/-- The defect of an item that neither a comma nor the closing bracket follows. -/
def Bracket.noComma : Bracket → ReadError
  | list => .expectedCommaOrBracket
  | dict => .expectedCommaOrBrace

/-- Closes brackets as long as they close; what is left is open and has a further item. -/
def closeOpen : Nat → Bool → List Bracket → Read (List Bracket)
  | 0, _, _ | _, _, [] => fun cs => .ok ([], cs)
  | fuel + 1, afterItem, bracket :: outer => fun cs =>
    match skipGaps cs with
    | [] => .error bracket.atEnd
    | c :: rest =>
      if afterItem ∧ c = ',' then .ok (bracket :: outer, rest)
      else if c = bracket.closing then closeOpen fuel true outer rest
      else if afterItem then .error bracket.noComma
      else .ok (bracket :: outer, c :: rest)

/-- Passes over the key and the colon in front of an item of the innermost bracket. -/
def skipKey : List Bracket → Read Unit
  | .dict :: _ => fun cs =>
    match skipGaps cs with
    | [] => .error .endInDict
    | '"' :: rest => (do skipText; colon) rest
    | _ => .error .keyNotText
  | _ => fun cs => .ok ((), cs)

/-- Passes over the front of a value: all of a scalar, the opening bracket of a container. -/
def skipFront : Read (Option Bracket) := fun cs =>
  match skipGaps cs with
  | [] => .error .endInValue
  | 'n' :: rest => (do word ['u', 'l', 'l']; return none) rest
  | 't' :: rest => (do word ['r', 'u', 'e']; return none) rest
  | 'f' :: rest => (do word ['a', 'l', 's', 'e']; return none) rest
  | '"' :: rest => (do skipText; return none) rest
  | '-' :: rest => (do skipNumber; return none) rest
  | '[' :: rest => .ok (some .list, rest)
  | '\x7b' :: rest => .ok (some .dict, rest)
  | c :: rest =>
    if c.isDigit then (do skipNumber; return none) (c :: rest) else .error .expectedValue

/-- Passes over values until no bracket is open; each takes at least one of `fuel`. -/
def skipValues : Nat → List Bracket → Read Unit
  | 0, _ => throw .endInValue
  | fuel + 1, opened => do
    let front ← skipFront
    let opened ←
      match front with
      | none => closeOpen (opened.length + 1) true opened
      | some bracket => closeOpen (opened.length + 2) false (bracket :: opened)
    if opened.isEmpty then return ()
    else
      skipKey opened
      skipValues fuel opened

/-- Passes over a value. -/
def skipValue : Read Unit := fun cs =>
  skipValues (cs.length + 1) [] cs

end NameLint.Json

/-
Writing documents.

`Json.compact` writes a value without blanks; `Json.pretty` puts every item on a line of
its own, two blanks deeper than what holds it.  Any value can be written; a record that is
not made of texts and numbers alone may fail to have a value, and then it is not written.
-/
import NameLint.Decimal.Shortest
import NameLint.Json.Value

namespace NameLint.Json

/-! ### Records -/

/-- Why a record has no value. -/
inductive WriteError where
  /-- A path in it is no text. -/
  | pathNotText
deriving DecidableEq, Repr

/-- The wording of the cause. -/
def WriteError.message : WriteError → String
  | pathNotText => "path contains invalid UTF-8 characters"

/-- The value of a record, or why there is none. -/
abbrev Written := Except WriteError Json

/-! ### Texts and numbers -/

/-- The four-digit escape of a control character. -/
def controlEscape (c : Char) : List Char :=
  let digits := Nat.toDigits 16 c.toNat
  ['\\', 'u'] ++ List.replicate (4 - digits.length) '0' ++ digits

/-- How a character is written inside a text. -/
def escapeChar (c : Char) : List Char :=
  if c = '"' then ['\\', '"']
  else if c = '\\' then ['\\', '\\']
  else if c = '\x08' then ['\\', 'b']
  else if c = '\x0c' then ['\\', 'f']
  else if c = '\n' then ['\\', 'n']
  else if c = '\r' then ['\\', 'r']
  else if c = '\t' then ['\\', 't']
  else if c.toNat < 0x20 then controlEscape c
  else [c]

/-- A text as it stands in a document. -/
def textLiteral (s : String) : List Char :=
  '"' :: s.toList.flatMap escapeChar ++ ['"']

/-- A whole number as it stands in a document. -/
def intLiteral (i : Int) : List Char :=
  if i < 0 then '-' :: Nat.toDigits 10 i.natAbs else Nat.toDigits 10 i.natAbs

/-! ### Compact documents -/

/-- Puts a separator between pieces of text. -/
def joinWith (separator : List Char) : List (List Char) → List Char
  | [] => []
  | [piece] => piece
  | piece :: rest => piece ++ separator ++ joinWith separator rest

mutual

/-- The characters of a value, without blanks. -/
def compactChars : Json → List Char
  | null => "null".toList
  | bool b => if b then "true".toList else "false".toList
  | int i => intLiteral i
  | float x => (Layout.documents.text x).toList
  | str s => textLiteral s
  | list items => '[' :: joinWith [','] (compactItems items) ++ [']']
  | dict entries => '\x7b' :: joinWith [','] (compactEntries entries) ++ ['\x7d']

/-- The characters of each item of a list. -/
def compactItems : List Json → List (List Char)
  | [] => []
  | item :: rest => compactChars item :: compactItems rest

/-- The characters of each entry of a dictionary. -/
def compactEntries : List (String × Json) → List (List Char)
  | [] => []
  | (key, value) :: rest => (textLiteral key ++ ':' :: compactChars value) :: compactEntries rest

end

/-- The text of a value, without blanks. -/
def compact (value : Json) : String :=
  String.ofList (compactChars value)

/-! ### Laid out documents -/

/-- A new line at the given depth. -/
def newLine (depth : Nat) : List Char :=
  '\n' :: List.replicate (2 * depth) ' '

/-- Pieces on lines of their own between two brackets, the brackets alone if there are none. -/
def bracketed (opening closing : Char) (depth : Nat) (pieces : List (List Char)) : List Char :=
  if pieces.isEmpty then [opening, closing]
  else
    opening :: newLine (depth + 1) ++ joinWith (',' :: newLine (depth + 1)) pieces
      ++ newLine depth ++ [closing]

mutual

/-- The characters of a value at the given depth. -/
def prettyChars (depth : Nat) : Json → List Char
  | null => "null".toList
  | bool b => if b then "true".toList else "false".toList
  | int i => intLiteral i
  | float x => (Layout.documents.text x).toList
  | str s => textLiteral s
  | list items => bracketed '[' ']' depth (prettyItems (depth + 1) items)
  | dict entries => bracketed '\x7b' '\x7d' depth (prettyEntries (depth + 1) entries)

/-- The characters of each item of a list. -/
def prettyItems (depth : Nat) : List Json → List (List Char)
  | [] => []
  | item :: rest => prettyChars depth item :: prettyItems depth rest

/-- The characters of each entry of a dictionary. -/
def prettyEntries (depth : Nat) : List (String × Json) → List (List Char)
  | [] => []
  | (key, value) :: rest =>
    (textLiteral key ++ ": ".toList ++ prettyChars depth value) :: prettyEntries depth rest

end

/-- The text of a value with every item on a line of its own. -/
def pretty (value : Json) : String :=
  String.ofList (prettyChars 0 value)

end NameLint.Json

/-
What can be wrong with a document.

A defect is of one of three kinds: the text is not in the format, it ends too early, or it
holds values that the record being read cannot take.  Each constructor is one cause; the
wording is in `message` alone.
-/
import NameLint.Decimal.Shortest
import NameLint.Text.Quoted

namespace NameLint.Json

/-- What a reader met in place of what it expected. -/
inductive Found where
  | null
  | bool (b : Bool)
  | int (i : Int)
  | float (x : Binary64)
  | str (s : String)
  | list
  | dict
deriving DecidableEq, Repr

/-- The description of what was met. -/
def Found.text : Found → String
  | null => "null"
  | bool b => "boolean `" ++ (if b then "true" else "false") ++ "`"
  | int i =>
    "integer `" ++ (if i < 0 then "-" else "") ++ String.ofList (Nat.toDigits 10 i.natAbs) ++ "`"
  | float x => "floating point `" ++ Layout.documents.text x ++ "`"
  | str s => "string " ++ Text.quoted s
  | list => "sequence"
  | dict => "map"

/-- The three kinds of defects. -/
inductive Category where
  /-- The text is not in the format. -/
  | syntactic
  /-- The values do not fit the record. -/
  | data
  /-- The text ends too early. -/
  | ending
deriving DecidableEq, Repr

/-- The name of a kind of defects. -/
def Category.name : Category → String
  | syntactic => "syntax"
  | data => "data"
  | ending => "eof"

/-- A defect of a document. -/
inductive ReadError where
  | expectedValue
  | expectedIdent
  | trailingCharacters
  | trailingComma
  | expectedCommaOrBracket
  | expectedCommaOrBrace
  | expectedColon
  | keyNotText
  | invalidNumber
  | numberOutOfRange
  | invalidEscape
  | endOfHexEscape
  | loneSurrogate
  | controlCharacter
  | tooDeep
  | endInValue
  | endInText
  | endInList
  | endInDict
  | invalidType (found : Found) (expected : String)
  | invalidValue (found : Found) (expected : String)
  | unknownVariant (name : String) (known : List String)
  | missingField (field : String)
  | duplicateField (field : String)
  | invalidLength (length : Nat) (expected : String)
deriving DecidableEq, Repr

namespace ReadError

/-- The kind of a defect. -/
def category : ReadError → Category
  | endInValue | endInText | endInList | endInDict => .ending
  | invalidType .. | invalidValue .. | unknownVariant .. | missingField _ | duplicateField _
  | invalidLength .. => .data
  | _ => .syntactic

/-- A list of admissible names. -/
def choices (names : List String) : String :=
  match names.map fun n => "`" ++ n ++ "`" with
  | [a, b] => a ++ " or " ++ b
  | quoted => "one of " ++ String.intercalate ", " quoted

/-- The wording of a defect. -/
def message : ReadError → String
  | expectedValue => "expected value"
  | expectedIdent => "expected ident"
  | trailingCharacters => "trailing characters"
  | trailingComma => "trailing comma"
  | expectedCommaOrBracket => "expected `,` or `]`"
  | expectedCommaOrBrace => "expected `,` or `\x7d`"
  | expectedColon => "expected `:`"
  | keyNotText => "key must be a string"
  | invalidNumber => "invalid number"
  | numberOutOfRange => "number out of range"
  | invalidEscape => "invalid escape"
  | endOfHexEscape => "unexpected end of hex escape"
  | loneSurrogate => "lone leading surrogate in hex escape"
  | controlCharacter => "control character (\\u0000-\\u001F) found while parsing a string"
  | tooDeep => "recursion limit exceeded"
  | endInValue => "EOF while parsing a value"
  | endInText => "EOF while parsing a string"
  | endInList => "EOF while parsing a list"
  | endInDict => "EOF while parsing an object"
  | invalidType found expected => "invalid type: " ++ found.text ++ ", expected " ++ expected
  | invalidValue found expected => "invalid value: " ++ found.text ++ ", expected " ++ expected
  | unknownVariant name known => "unknown variant `" ++ name ++ "`, expected " ++ choices known
  | missingField field => "missing field `" ++ field ++ "`"
  | duplicateField field => "duplicate field `" ++ field ++ "`"
  | invalidLength length expected =>
    "invalid length " ++ String.ofList (Nat.toDigits 10 length) ++ ", expected " ++ expected

end ReadError

end NameLint.Json

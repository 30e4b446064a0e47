/-
Texts of a TOML document.

A text stands between quotes, on one line or, between triple quotes, on several.  Double
quotes allow escapes and single quotes take everything as it stands.
-/
import NameLint.Text.Basic
import NameLint.Toml.Gap

namespace NameLint.Toml

/-! ### Escapes -/

/-- The character of a one-letter escape. -/
def shortEscape? (c : Char) : Option Char :=
  if c = 'b' then some '\x08'
  else if c = 't' then some '\t'
  else if c = 'n' then some '\n'
  else if c = 'f' then some '\x0c'
  else if c = 'r' then some '\r'
  else if c = '"' ∨ c = '\\' then some c
  else none

/-- Reads the given number of hexadecimal digits. -/
def hexDigits : Nat → Nat → Read Nat
  | 0, n => return n
  | count + 1, n => fun
    | [] => none
    | c :: rest =>
      match Text.hexDigit? c with
      | none => none
      | some d => hexDigits count (n * 16 + d) rest

/-- Reads what follows the backslash of an escape. -/
def escape : Read Char
  | 'u' :: rest => (do let n ← hexDigits 4 0; Text.scalar? n) rest
  | 'U' :: rest => (do let n ← hexDigits 8 0; Text.scalar? n) rest
  | c :: rest => (shortEscape? c).map fun d => (d, rest)
  | [] => none

/-! ### On one line -/

/-- Whether the character may stand between quotes as it is. -/
def isTextChar (c : Char) : Bool := isCommentChar c

/-- Reads the rest of a text up to the given quote; at most `fuel` characters with the quote. -/
def lineTextFrom (quote : Char) : Nat → List Char → Read (List Char)
  | 0, _ => fun _ => none
  | fuel + 1, done => fun
    | [] => none
    | c :: rest =>
      if c = quote then some (done.reverse, rest)
      else if c = '\\' ∧ quote = '"' then
        (do let d ← escape; lineTextFrom quote fuel (d :: done)) rest
      else if isTextChar c then lineTextFrom quote fuel (c :: done) rest
      else none

/-- Reads the rest of a text on one line, up to the given quote. -/
def lineText (quote : Char) : Read String := fun cs =>
  (String.ofList <$> lineTextFrom quote (cs.length + 1) []) cs

/-! ### On several lines

One or two quotes may stand in the text, also right before the closing ones.  A backslash
at the end of a line takes the line end and all blanks and line ends after it away.
-/

/-- The text after the rest of a line that a backslash has joined to the next ones. -/
def afterJoin? (cs : List Char) : Option (List Char) :=
  (afterNewline? (skipBlanks cs)).map skipLines

/-- Reads the rest of a text up to three of the given quotes; at most `fuel` characters. -/
def blockTextFrom (quote : Char) : Nat → List Char → Read (List Char)
  | 0, _ => fun _ => none
  | fuel + 1, done => fun cs =>
    let quotes := (cs.takeWhile (· = quote)).length
    if 3 ≤ quotes then
      let extra := min (quotes - 3) 2
      some (done.reverse ++ List.replicate extra quote, cs.drop (3 + extra))
    else
      match afterNewline? cs with
      | some rest => blockTextFrom quote fuel ('\n' :: done) rest
      | none =>
        match cs with
        | [] => none
        | c :: rest =>
          if c = '\\' ∧ quote = '"' then
            match afterJoin? rest with
            | some rest => blockTextFrom quote fuel done rest
            | none => (do let d ← escape; blockTextFrom quote fuel (d :: done)) rest
          else if isTextChar c then blockTextFrom quote fuel (c :: done) rest
          else none

/-- Reads the rest of a text on several lines; a line end right after the quotes does not count. -/
def blockText (quote : Char) : Read String := fun cs =>
  (String.ofList <$> blockTextFrom quote (cs.length + 1) []) ((afterNewline? cs).getD cs)

/-- Reads the rest of a text after its first quote. -/
def text (quote : Char) : Read String := fun cs =>
  match cs with
  | a :: b :: rest =>
    if a = quote ∧ b = quote then blockText quote rest else lineText quote cs
  | _ => lineText quote cs

end NameLint.Toml

/-
Finding the include guard of a header.

A header has a guard if the first directive within its leading lines is `#ifndef` with
exactly one word after it.  A byte order mark in front of the first line does not count, and
neither do directives in comments: before a line is looked at, every byte of a comment in it
becomes one space, so whatever is left stays at its place.  A block comment may run over
several lines; whether one is open is handed on from line to line.
-/
import NameLint.Text.Basic

namespace NameLint.Guard

/-! ### Blanking comments -/

/-- As many spaces as the text takes bytes. -/
def spacesFor (cs : List Char) : List Char :=
  List.replicate (Text.byteCount cs) ' '

/-- Puts text in front of a blanked line. -/
def prepend (front : List Char) (line : List Char × Bool) : List Char × Bool :=
  (front ++ line.1, line.2)

/-- The line with comments blanked, and whether a block comment is open after it; `inBlock` if one
is before. -/
def blanked : Bool → List Char → List Char × Bool
  | inBlock, [] => ([], inBlock)
  | true, '*' :: '/' :: cs => prepend [' ', ' '] (blanked false cs)
  | true, c :: cs => prepend (spacesFor [c]) (blanked true cs)
  | false, '/' :: '*' :: cs => prepend [' ', ' '] (blanked true cs)
  | false, '/' :: '/' :: cs => (spacesFor ('/' :: '/' :: cs), false)
  | false, c :: cs => prepend [c] (blanked false cs)

/-! ### What is found -/

/-- What the leading lines of a header hold; lines and columns are counted from one. -/
inductive Scan where
  /-- No guard. -/
  | missing
  /-- A guard without exactly one word, whose sign of a directive stands at the place. -/
  | invalid (line column : Nat)
  /-- A guard, whose word stands at the place. -/
  | found (token : List Char) (line column : Nat)
deriving DecidableEq, Repr

/-! ### Places in a line -/

/-- The text before and after the given number of bytes; none if they end inside a character. -/
def splitBytes? (n : Nat) (line : List Char) : Option (List Char × List Char) :=
  if n = 0 then some ([], line)
  else
    match line with
    | [] => none
    | c :: cs =>
      if c.utf8Size ≤ n then (splitBytes? (n - c.utf8Size) cs).map fun p => (c :: p.1, p.2)
      else none

/-- The column of the character after so many bytes. -/
def columnAt (line : List Char) (bytes : Nat) : Nat :=
  ((splitBytes? bytes line).map fun p => p.1.length).getD 0 + 1

/-! ### Directives -/

/-- The keyword of a guard. -/
def keyword : List Char := "ifndef".toList

/-- The text after the keyword at its front. -/
def afterKeyword? (text : List Char) : Option (List Char) :=
  if keyword.isPrefixOf text then some (text.drop keyword.length) else none

/-- Whether the character would make a keyword before it part of a longer word. -/
def continuesWord (c : Char) : Bool :=
  Property.alphanumeric.contains c || c = '_'

/-- What a directive holds; `directive` is the text from its sign on, and `code` ends in it. -/
def directiveScan (number : Nat) (line code directive : List Char) : Scan :=
  match afterKeyword? (Text.trimStart directive.tail) with
  | none => .missing
  | some rest =>
    if rest.head?.any continuesWord then .missing
    else
      let args := Text.trimStart rest
      match Text.words args with
      | [token] => .found token number (columnAt line (Text.byteCount code - Text.byteCount args))
      | _ => .invalid number (columnAt line (Text.byteCount code - Text.byteCount directive))

/-- What a line holds, none if it has no directive; `code` is the line with comments blanked. -/
def lineScan? (number : Nat) (line code : List Char) : Option Scan :=
  let directive := Text.trimStart code
  if directive.head? = some '#' then some (directiveScan number line code directive) else none

/-! ### Lines -/

/-- The first line without a byte order mark. -/
def withoutMark : List Char → List Char
  | '\uFEFF' :: cs => cs
  | cs => cs

/-- What the first directive of some lines holds; `number` is that of the first of them. -/
def scanFrom (inBlock : Bool) (number : Nat) : List (List Char) → Scan
  | [] => .missing
  | raw :: rest =>
    let line := if number = 1 then withoutMark raw else raw
    let (code, inBlock) := blanked inBlock line
    match lineScan? number line code with
    | some scan => scan
    | none => scanFrom inBlock (number + 1) rest

/-- What the leading lines of a header hold. -/
def scan (lines : List String) (limit : Nat) : Scan :=
  scanFrom false 1 ((lines.take limit).map String.toList)

end NameLint.Guard

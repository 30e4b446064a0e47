/-
Reading words, texts and numbers of a document.

A reading step takes what is left of the text and gives the value read together with what
is left after it, or the first defect met.  Steps read from the front and never look back,
so two faults in one document are told apart by which comes first.
-/
import NameLint.Json.Error
import NameLint.Text.Basic

namespace NameLint.Json

/-- A reading step: it turns the text left to read into a value and the rest, or into a defect. -/
abbrev Read := StateT (List Char) (Except ReadError)

/-- Whether the character may stand between the parts of a document. -/
def isGap (c : Char) : Bool :=
  c = ' ' || c = '\n' || c = '\t' || c = '\r'

/-- The text without leading gaps. -/
def skipGaps (cs : List Char) : List Char :=
  cs.dropWhile isGap

/-- Reads the given letters of a word. -/
def word : List Char → Read Unit
  | [], cs => .ok ((), cs)
  | _ :: _, [] => .error .endInValue
  | w :: ws, c :: cs => if c = w then word ws cs else .error .expectedIdent

/-! ### Texts

A text ends at its closing quote.  Escapes of code points above the basic plane come in
pairs of surrogates, and a surrogate without its partner is refused.
-/

/-- The number that four hexadecimal digits give. -/
def fourHexDigits? (a b c d : Char) : Option Nat := do
  let a ← Text.hexDigit? a
  let b ← Text.hexDigit? b
  let c ← Text.hexDigit? c
  let d ← Text.hexDigit? d
  some (((a * 16 + b) * 16 + c) * 16 + d)

/--
Reads the four digits of an escape.  An escape without its digits is cut short when fewer
than four bytes are left, and wrong otherwise.
-/
def hexEscape : Read Nat := fun cs =>
  match cs with
  | a :: b :: c :: d :: rest =>
    match fourHexDigits? a b c d with
    | some n => .ok (n, rest)
    | none => .error .invalidEscape
  | _ => .error (if Text.byteCount cs < 4 then .endInText else .invalidEscape)

/-- Reads the second half of a pair of surrogates. -/
def trailingSurrogate : Read Nat := fun cs =>
  match cs with
  | [] | ['\\'] => .error .endInText
  | '\\' :: 'u' :: rest => hexEscape rest
  | _ => .error .endOfHexEscape

/-- Reads what follows the letter of a code point escape: one code unit, or a pair of surrogates. -/
def codePoint : Read Char := do
  let n ← hexEscape
  if 0xDC00 ≤ n ∧ n ≤ 0xDFFF then throw .loneSurrogate
  else if n < 0xD800 ∨ 0xDBFF < n then return Char.ofNat n
  else
    let m ← trailingSurrogate
    if m < 0xDC00 ∨ 0xDFFF < m then throw .loneSurrogate
    else return Char.ofNat ((n - 0xD800) * 0x400 + (m - 0xDC00) + 0x10000)

/-- The character that a one-letter escape stands for. -/
def shortEscape? (c : Char) : Option Char :=
  if c = '"' ∨ c = '\\' ∨ c = '/' then some c
  else if c = 'b' then some '\x08'
  else if c = 'f' then some '\x0c'
  else if c = 'n' then some '\n'
  else if c = 'r' then some '\r'
  else if c = 't' then some '\t'
  else none

/-- Reads the character at the front of a text, none at the closing quote. -/
def textChar : Read (Option Char) := fun cs =>
  match cs with
  | [] => .error .endInText
  | '"' :: rest => .ok (none, rest)
  | '\\' :: [] => .error .endInText
  | '\\' :: 'u' :: rest => (some <$> codePoint) rest
  | '\\' :: c :: rest =>
    match shortEscape? c with
    | some d => .ok (some d, rest)
    | none => .error .invalidEscape
  | c :: rest => if c.toNat < 0x20 then .error .controlCharacter else .ok (some c, rest)

/--
Reads the characters up to the closing quote, at most `fuel` of them with the quote; `done`
holds those already read, the latest first.
-/
def textChars : Nat → List Char → Read (List Char)
  | 0, _ => throw .endInText
  | fuel + 1, done => do
    match ← textChar with
    | none => return done.reverse
    | some c => textChars fuel (c :: done)

/-- Reads a text after its opening quote. -/
def text : Read String := fun cs =>
  (String.ofList <$> textChars (cs.length + 1) []) cs

/-! ### Numbers

The digits of a number are gathered while they fit in 64 bits.  Whole numbers that fit are
kept; the rest become doubles, scaled by the power of ten that the remaining digits, the
point and the exponent add up to.
-/

/-- A number of a document. -/
inductive Number where
  | int (i : Int)
  | float (x : Binary64)
deriving DecidableEq, Repr

/-- Gathers digits while the number they form fits in 64 bits; gives it, their count and the
rest. -/
def gatherDigits : Nat → Nat → List Char → Nat × Nat × List Char
  | n, count, [] => (n, count, [])
  | n, count, c :: cs =>
    if c.isDigit ∧ n * 10 + Text.digitValue c < Nat.pow 2 64 then
      gatherDigits (n * 10 + Text.digitValue c) (count + 1) cs
    else (n, count, c :: cs)

/-- Whether the text starts with a digit. -/
def startsWithDigit (cs : List Char) : Bool :=
  (cs.head?.map Char.isDigit).getD false

/-- The double nearest to rounded digits times a rounded power of ten. -/
def scaledNumber (negative : Bool) (digits : Nat) (exponent : Int) : Read Number := fun rest =>
  match Binary64.scaled digits exponent with
  | some f => .ok (.float (.withSign negative f), rest)
  | none => .error .numberOutOfRange

/-- The greatest exponent that is told apart from an infinite one. -/
def greatestExponent : Nat := Nat.pow 2 31 - 1

/-- Reads an exponent after its letter. -/
def exponent (negative : Bool) (digits : Nat) (start : Int) : Read Number := fun cs =>
  let down := cs.head? = some '-'
  let cs := if cs.head? = some '-' ∨ cs.head? = some '+' then cs.tail else cs
  if cs.isEmpty then .error .endInValue
  else if ¬ startsWithDigit cs then .error .invalidNumber
  else
    let e := (cs.takeWhile Char.isDigit).foldl (fun n c => n * 10 + Text.digitValue c) 0
    let rest := cs.dropWhile Char.isDigit
    if e ≤ greatestExponent then
      scaledNumber negative digits (if down then start - e else start + e) rest
    else if digits ≠ 0 ∧ ¬ down then .error .numberOutOfRange
    else .ok (.float (.zero negative), rest)

/-- Reads what may follow the digits of a double: an exponent or nothing. -/
def exponentIfAny (negative : Bool) (digits : Nat) (start : Int) : Read Number
  | 'e' :: rest | 'E' :: rest => exponent negative digits start rest
  | cs => scaledNumber negative digits start cs

/-- Reads the digits after a point; `start` is the power of ten of the digit before it. -/
def fraction (negative : Bool) (digits : Nat) (start : Int) : Read Number := fun cs =>
  let (n, count, rest) := gatherDigits digits 0 cs
  if startsWithDigit rest then
    exponentIfAny negative n (start - count) (rest.dropWhile Char.isDigit)
  else if count = 0 then .error (if rest.isEmpty then .endInValue else .invalidNumber)
  else exponentIfAny negative n (start - count) rest

/-- Reads what follows digits that fit in 64 bits. -/
def afterDigits (negative : Bool) (n : Nat) : Read Number
  | '.' :: rest => fraction negative n 0 rest
  | 'e' :: rest | 'E' :: rest => exponent negative n 0 rest
  | rest =>
    if ¬ negative then .ok (.int n, rest)
    else if 0 < n ∧ n ≤ Nat.pow 2 63 then .ok (.int (-n), rest)
    else scaledNumber true n 0 rest

/-- Reads a number after its sign. -/
def unsignedNumber (negative : Bool) : Read Number := fun cs =>
  if cs.isEmpty then .error .endInValue
  else if ¬ startsWithDigit cs then .error .invalidNumber
  else if cs.head? = some '0' then
    if startsWithDigit cs.tail then .error .invalidNumber else afterDigits negative 0 cs.tail
  else
    let (n, _, rest) := gatherDigits 0 0 cs
    let further := (rest.takeWhile Char.isDigit).length
    if further = 0 then afterDigits negative n rest
    else
      match rest.dropWhile Char.isDigit with
      | '.' :: rest => fraction negative n further rest
      | rest => exponentIfAny negative n further rest

/-- Reads a number. -/
def number : Read Number
  | '-' :: rest => unsignedNumber true rest
  | cs => unsignedNumber false cs

end NameLint.Json

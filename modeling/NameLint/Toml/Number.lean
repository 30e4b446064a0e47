/-
Numbers of a TOML document.

Underscores may stand between digits.  A whole number has no leading zero and fits in 64
bits with a sign; with a point or an exponent the number is a float, rounded exactly.
-/
import NameLint.Text.Basic
import NameLint.Toml.Gap
import NameLint.Toml.Value

namespace NameLint.Toml

/-! ### Digits -/

/-- The value of a digit in the given base. -/
def digit? (base : Nat) (c : Char) : Option Nat :=
  (Text.hexDigit? c).filter (· < base)

/-- Reads further digits; an underscore has to be followed by one. -/
def moreDigits (base : Nat) : List Char → Option (List Nat × List Char)
  | [] => some ([], [])
  | '_' :: c :: rest => do
    let d ← digit? base c
    let (ds, rest) ← moreDigits base rest
    return (d :: ds, rest)
  | c :: rest =>
    match digit? base c with
    | some d => do
      let (ds, rest) ← moreDigits base rest
      return (d :: ds, rest)
    | none => if c = '_' then none else some ([], c :: rest)

/-- Reads at least one digit. -/
def digits (base : Nat) : Read (List Nat)
  | [] => none
  | c :: rest => do
    let d ← digit? base c
    let (ds, rest) ← moreDigits base rest
    return (d :: ds, rest)

/-- The number that digits give. -/
def valueOf (base : Nat) (ds : List Nat) : Nat :=
  ds.foldl (fun n d => n * base + d) 0

/-- Reads the digits of a number without leading zeros. -/
def wholeDigits : Read (List Nat)
  | '0' :: rest => some ([0], rest)
  | cs => digits 10 cs

/-! ### Numbers -/

/-- A whole number, which has to fit. -/
def integer? (negative : Bool) (n : Nat) : Option Value :=
  let i : Int := if negative then -n else n
  let bound : Int := Nat.pow 2 63
  if -bound ≤ i ∧ i < bound then some (.integer i) else none

/-- A float; too large a magnitude is infinite, which only a negative number may be. -/
def float? (negative : Bool) (ds : List Nat) (exponent : Int) : Option Value :=
  match Binary64.exact (valueOf 10 ds) exponent with
  | some f => some (.float (.withSign negative f))
  | none => if negative then some .nonFinite else none

/-- Whether the first character is a minus sign, and the text after a sign. -/
def sign : List Char → Bool × List Char
  | '-' :: rest => (true, rest)
  | '+' :: rest => (false, rest)
  | cs => (false, cs)

/-- Reads the exponent of a float, if there is one. -/
def exponent? : Read (Option Int)
  | c :: rest =>
    if c = 'e' ∨ c = 'E' then
      let (negative, rest) := sign rest
      (do
        let ds ← digits 10
        let n : Int := valueOf 10 ds
        return some (if negative then -n else n)) rest
    else some (none, c :: rest)
  | [] => some (none, [])

/-- Reads the digits after the point of a float, if there is one. -/
def fraction? : Read (Option (List Nat))
  | '.' :: rest => (some <$> digits 10) rest
  | cs => some (none, cs)

/-- Reads a number after its sign. -/
def unsigned (negative : Bool) : Read Value := do
  let whole ← wholeDigits
  let fraction ← fraction?
  let exponent ← exponent?
  if fraction.isNone ∧ exponent.isNone then integer? negative (valueOf 10 whole)
  else
    let after := fraction.getD []
    float? negative (whole ++ after) (exponent.getD 0 - after.length)

/-- Reads the digits of a whole number in another base. -/
def based (base : Nat) : Read Value := do
  integer? false (valueOf base (← digits base))

/-- Reads a number. -/
def number : Read Value
  | '0' :: 'x' :: rest => based 16 rest
  | '0' :: 'o' :: rest => based 8 rest
  | '0' :: 'b' :: rest => based 2 rest
  | cs =>
    match sign cs with
    | (_, 'i' :: 'n' :: 'f' :: rest) => some (.nonFinite, rest)
    | (_, 'n' :: 'a' :: 'n' :: rest) => some (.nonFinite, rest)
    | (negative, rest) => unsigned negative rest

end NameLint.Toml

/-
Double precision numbers as exact fractions.

The two document formats read decimal numbers into doubles and one of them writes
them back.  Both directions have to be exact to the last digit, so a double is kept
here as what it denotes, a signed integer times a power of two, and every operation
is rational arithmetic followed by one rounding.

`nearest` is that rounding: the closest double to a fraction, a tie going to the even
mantissa, with the gradual loss of precision below 2 ^ -1022 and no answer once the
magnitude passes the largest double.  The other operations only say which fraction
they round.
-/

namespace NameLint

/-- A finite double: its magnitude is `mantissa * 2 ^ exponent`. -/
structure Binary64 where
  /-- Whether the number carries a minus sign; zero may carry one too. -/
  negative : Bool
  /-- The significant bits, below `2 ^ 53`. -/
  mantissa : Nat
  /-- The power of two that the mantissa counts. -/
  exponent : Int
deriving DecidableEq, Repr

namespace Binary64

/-! ### The magnitudes

A magnitude is normal when its mantissa has all 53 bits, and subnormal when its
exponent is the least one.  `Magnitude` is a double without its sign.
-/

/-- A mantissa and the power of two it counts. -/
abbrev Magnitude := Nat × Int

/-- The least exponent a mantissa can have. -/
def leastExponent : Int := -1074

/-- The greatest exponent a 53-bit mantissa can have. -/
def greatestExponent : Int := 971

/-- The magnitude of zero. -/
def zeroMagnitude : Magnitude := (0, leastExponent)

/-- The integer nearest to `num / den`, a tie going to the even one. -/
def roundQuotient (num den : Nat) : Nat :=
  let q := num / den
  let r := num % den
  if 2 * r > den ∨ (2 * r = den ∧ q % 2 = 1) then q + 1 else q

/-- `num / den` counted in units of `2 ^ e`, as a numerator and a denominator. -/
def inUnits (num den : Nat) (e : Int) : Nat × Nat :=
  if 0 ≤ e then (num, den * Nat.pow 2 e.toNat) else (num * Nat.pow 2 (-e).toNat, den)

/-- The exponent at which the quotient `num / den` has 53 bits before the point. -/
def fullExponent (num den : Nat) : Int :=
  let guess : Int := (Nat.log2 num : Int) - Nat.log2 den - 52
  let scaled := inUnits num den guess
  if scaled.1 / scaled.2 < Nat.pow 2 52 then guess - 1 else guess

/-- The magnitude nearest to `num / den`; none when it is beyond every double. -/
def nearest (num den : Nat) : Option Magnitude :=
  if num = 0 then some zeroMagnitude
  else
    let e := max (fullExponent num den) leastExponent
    let scaled := inUnits num den e
    let m := roundQuotient scaled.1 scaled.2
    let result : Magnitude := if m = Nat.pow 2 53 then (Nat.pow 2 52, e + 1) else (m, e)
    if result.2 > greatestExponent then none else some result

/-- The magnitude nearest to `num / den * 2 ^ shift`. -/
def nearestShifted (num den : Nat) (shift : Int) : Option Magnitude :=
  if 0 ≤ shift then nearest (num * Nat.pow 2 shift.toNat) den
  else nearest num (den * Nat.pow 2 (-shift).toNat)

/-- The rounded product of two magnitudes. -/
def product (a b : Magnitude) : Option Magnitude :=
  nearestShifted (a.1 * b.1) 1 (a.2 + b.2)

/-- The rounded quotient of two magnitudes. -/
def quotient (a b : Magnitude) : Option Magnitude :=
  nearestShifted a.1 b.1 (a.2 - b.2)

/-- The magnitude nearest to a power of ten. -/
def powerOfTen (k : Nat) : Option Magnitude :=
  nearest (Nat.pow 10 k) 1

/-! ### From decimal digits

Two readings of `digits * 10 ^ exponent` exist.  `exact` rounds the decimal number
itself.  `scaled` rounds the digits, then the power of ten, then their product or
quotient; powers beyond 10 ^ 308 are divided out 308 at a time.
-/

/-- Divides by `10 ^ 308` up to `steps` times, stopping at zero. -/
def divideDown : Nat → Magnitude → Option Magnitude
  | 0, f => some f
  | steps + 1, f =>
    if f.1 = 0 then some f
    else do
      let p ← powerOfTen 308
      divideDown steps (← quotient f p)

/-- Scales rounded digits by a rounded power of ten; none when the result is beyond every double. -/
def scaled (digits : Nat) (exponent : Int) : Option Magnitude := do
  let f ← nearest digits 1
  if 0 ≤ exponent then
    if f.1 = 0 then some f
    else if exponent > 308 then none
    else product f (← powerOfTen exponent.toNat)
  else
    let down := (-exponent).toNat
    let steps := (down - 1) / 308
    let g ← divideDown steps f
    if g.1 = 0 then some g else quotient g (← powerOfTen (down - 308 * steps))

/-- The magnitude nearest to the decimal number; none when it is beyond every double. -/
def exact (digits : Nat) (exponent : Int) : Option Magnitude :=
  if digits = 0 then some zeroMagnitude
  else if exponent > 400 then none
  else if exponent + Nat.log2 digits < -1200 then some zeroMagnitude
  else if 0 ≤ exponent then nearest (digits * Nat.pow 10 exponent.toNat) 1
  else nearest digits (Nat.pow 10 (-exponent).toNat)

/-- A magnitude with a sign. -/
def withSign (negative : Bool) (f : Magnitude) : Binary64 :=
  ⟨negative, f.1, f.2⟩

/-- Zero, with or without a minus sign. -/
def zero (negative : Bool) : Binary64 :=
  withSign negative zeroMagnitude

end Binary64

end NameLint

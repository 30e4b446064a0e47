/-
The decimal text of a double.

`shortest` finds the fewest significant digits that read back as the same double: it
tries one digit, then two, up to seventeen, and on each grid tests the two neighbours
of the value against the interval of reals that round to it.  The ends of that
interval belong to it exactly when the mantissa is even.

Where the digits go is a separate decision, and a short one.  `Layout` names it, and
`Layout.documents` is the layout of every number this program writes.
-/
import NameLint.Decimal.Binary64

namespace NameLint

namespace Binary64

/-! ### Digits -/

/-- `num / den` counted in units of `10 ^ k`, as a numerator and a denominator. -/
def inTens (num den : Nat) (k : Int) : Nat × Nat :=
  if 0 ≤ k then (num, den * Nat.pow 10 k.toNat) else (num * Nat.pow 10 (-k).toNat, den)

/-- The number of decimal digits of a positive number. -/
def digitCount (n : Nat) : Nat :=
  (Nat.toDigits 10 n).length

/-- Whether `num / den` is at least `10 ^ k`. -/
def reaches (num den : Nat) (k : Int) : Bool :=
  let scaled := inTens num den k
  scaled.2 ≤ scaled.1

/-- The power of ten of the first digit of `num / den`, for a positive fraction. -/
def leadingPower (num den : Nat) : Int :=
  let guess : Int := (digitCount num : Int) - digitCount den
  if reaches num den guess then guess else guess - 1

/--
The digits on the grid of `10 ^ k` that read back as the magnitude, if there are any.
All four arguments count quarters of the last binary place: the value and the two ends
of the interval that rounds to it.
-/
def onGrid (value low high den : Nat) (closed : Bool) (k : Int) : Option Nat :=
  let v := inTens value den k
  let below := v.1 / v.2
  let inside (d : Nat) : Bool :=
    let l := inTens low den k
    let h := inTens high den k
    if closed then l.1 ≤ d * v.2 ∧ d * v.2 ≤ h.1 else l.1 < d * v.2 ∧ d * v.2 < h.1
  let r := v.1 % v.2
  match inside below, inside (below + 1) with
  | true, true =>
    some (if 2 * r < v.2 ∨ (2 * r = v.2 ∧ below % 2 = 0) then below else below + 1)
  | true, false => some below
  | false, true => some (below + 1)
  | false, false => none

/-- Tries grids of `tried`, `tried + 1`, … digits; the last resort is the digits below the value. -/
def shortestFrom (value low high den : Nat) (closed : Bool) (lead : Int) : Nat → Nat → Nat × Int
  | 0, tried =>
    let k := lead - tried + 1
    let v := inTens value den k
    (v.1 / v.2, k)
  | left + 1, tried =>
    let k := lead - tried + 1
    match onGrid value low high den closed k with
    | some d => (d, k)
    | none => shortestFrom value low high den closed lead left (tried + 1)

/-- Moves trailing zeros of the digits into the power of ten. -/
def dropZeros : Nat → Nat × Int → Nat × Int
  | 0, x => x
  | left + 1, (d, k) => if d ≠ 0 ∧ d % 10 = 0 then dropZeros left (d / 10, k + 1) else (d, k)

/-- The fewest digits that read back as the magnitude, and the power of ten they count. -/
def shortest (x : Binary64) : Nat × Int :=
  if x.mantissa = 0 then (0, 0)
  else
    let quarter : Int := x.exponent - 2
    let up := if 0 ≤ quarter then Nat.pow 2 quarter.toNat else 1
    let den := if 0 ≤ quarter then 1 else Nat.pow 2 (-quarter).toNat
    let narrow : Bool := x.mantissa = Nat.pow 2 52 ∧ x.exponent ≠ leastExponent
    let value := 4 * x.mantissa * up
    let low := (4 * x.mantissa - if narrow then 1 else 2) * up
    let high := (4 * x.mantissa + 2) * up
    let lead := leadingPower value den
    dropZeros 20 (shortestFrom value low high den (x.mantissa % 2 = 0) lead 17 1)

end Binary64

/-! ### Placing the digits -/

/-- Where the digits of a number go. -/
structure Layout where
  /-- The greatest number of digits before the point that is written out. -/
  widest : Int
  /-- Plain notation needs more digits before the point than this; zeros after the point count as
  fewer. -/
  narrowest : Int
  /-- What ends a whole number in plain notation. -/
  wholeSuffix : String
  /-- The text before a power of ten that is not negative. -/
  upMark : String
  /-- The text before the magnitude of a negative power of ten. -/
  downMark : String

namespace Layout

/-- Plain from `1e-5` up to `1e16`, a whole number ends in `.0`, and exponents carry their sign. -/
def documents : Layout := ⟨16, -5, ".0", "e+", "e-"⟩

/-- The text of a magnitude given by its digits and the power of ten they count. -/
def place (layout : Layout) (digits : Nat) (k : Int) : String :=
  let text := Nat.toDigits 10 digits
  let count : Int := text.length
  let point := count + k
  if 0 ≤ k ∧ point ≤ layout.widest then
    String.ofList (text ++ List.replicate k.toNat '0') ++ layout.wholeSuffix
  else if 0 < point ∧ point ≤ layout.widest then
    String.ofList (text.take point.toNat) ++ "." ++ String.ofList (text.drop point.toNat)
  else if layout.narrowest < point ∧ point ≤ 0 then
    "0." ++ String.ofList (List.replicate (-point).toNat '0' ++ text)
  else
    let e := point - 1
    let mark := if 0 ≤ e then layout.upMark else layout.downMark
    let rest := if text.length ≤ 1 then [] else '.' :: text.drop 1
    String.ofList (text.take 1 ++ rest) ++ mark ++ String.ofList (Nat.toDigits 10 e.natAbs)

/-- The text of a double. -/
def text (layout : Layout) (x : Binary64) : String :=
  let digits := x.shortest
  (if x.negative then "-" else "") ++ layout.place digits.1 digits.2

end Layout

end NameLint

/-
Patterns ready for use.

A pattern is read, its flags are resolved, and its size is checked, in this order; the
first fault is the answer.

What a pattern takes up is a matter of the engine that runs it, which may build several
automata from a pattern, and builds them in ways of its own.  So the limit on sizes is a
parameter.  All that is asked of it is that the parts of a pattern that fits do fit, too.
Where a limit has to be named it is `Limit.estimated`, which looks at one automaton and no
more; an engine may refuse a pattern that is within it.
-/
import NameLint.Regex.Matching
import NameLint.Regex.Parser
import NameLint.Regex.Resolve

namespace NameLint.Regex

/-! ### Sizes -/

/-- The bytes of a state. -/
def stateSize : Nat := 32

/-- The bytes of a further transition of a state. -/
def transitionSize : Nat := 8

/-- The bytes that a range of characters takes in its class. -/
def rangeSize (r : Nat × Nat) : Nat :=
  if r.2 < 0x80 then transitionSize else 3 * transitionSize

/-- The bytes of a class: one state for each byte of a single character, else by its ranges. -/
def classSize (s : CharSet) : Nat :=
  match s.ranges with
  | [(lo, hi)] =>
    if lo = hi then (Char.ofNat lo).utf8Size * stateSize else stateSize + rangeSize (lo, hi)
  | ranges => stateSize + (ranges.map rangeSize).foldr (· + ·) 0

/-- Whether the pattern matches nothing but the empty text. -/
def onlyEmpty : Regex → Bool
  | empty => true
  | look _ => true
  | chars _ => false
  | seq a b => onlyEmpty a && onlyEmpty b
  | alt a b => onlyEmpty a && onlyEmpty b
  | times inner _ max => onlyEmpty inner || max == some 0

/-- The bytes of a repetition of something that takes `inner` bytes. -/
def repetitionSize (inner min : Nat) : Option Nat → Nat
  | none => Nat.max min 1 * inner + 2 * stateSize
  | some max => min * inner + (max - min) * (inner + stateSize + transitionSize)

/-- The bytes of the automaton that reads a text forwards, about. -/
def size : Regex → Nat
  | empty => stateSize
  | look _ => stateSize
  | chars s => classSize s
  | seq a b => size a + size b
  | alt a b => size a + size b + stateSize
  | times inner min max =>
    if onlyEmpty inner then size inner + stateSize else repetitionSize (size inner) min max

/-! ### Limits -/

/-- A limit on the size of patterns. -/
structure Limit where
  /-- Whether a pattern is small enough. -/
  fits : Regex → Bool
  /-- The parts of a sequence are no larger than the sequence. -/
  fits_parts : ∀ {a b : Regex}, fits (.seq a b) = true → fits a = true ∧ fits b = true

namespace Limit

/-- The limit by the estimated size. -/
def estimated : Limit where
  fits r := r.size ≤ sizeLimit
  fits_parts {a b} h := by
    have hsize : a.size + b.size ≤ sizeLimit := of_decide_eq_true h
    constructor
    · exact decide_eq_true (by omega)
    · exact decide_eq_true (by omega)

end Limit

/-! ### Compiling -/

/-- The pattern that a text spells, if it is within a limit. -/
def compileWithin (limit : Limit) (text : List Char) : Except PatternError Regex := do
  let e ← Expr.parse text
  let (r, _) ← e.resolve {}
  if limit.fits r then return r else throw .tooLarge

/-- The pattern that a text spells. -/
def compile (text : List Char) : Except PatternError Regex :=
  compileWithin .estimated text

end NameLint.Regex

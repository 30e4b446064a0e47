/-
Matching.

A text with `n` characters has `n + 1` places, and a set of places is a number whose bits
say which places it holds.  For a given text every class and every condition is the set
of places where it holds, so a pattern turns into a `Plan` of such sets, and matching is
to follow a set of places through the plan: a class moves them on by one character, a
condition keeps some of them, a repetition goes on until no place is new.

Every operation handles all places at once, so the time a match takes does not depend on
how many ways there are to find it.
-/
import NameLint.Regex.Resolve

namespace NameLint.Regex

/-! ### Sets of places -/

/-- Places in a text, as the bits of a number. -/
abbrev Places := Nat

/-- The places that the list says yes to. -/
def placesOf : List Bool → Places
  | [] => 0
  | b :: bs => 2 * placesOf bs + b.toNat

/-- Every place of a text with `n` characters. -/
def allPlaces (n : Nat) : Places := Nat.pow 2 (n + 1) - 1

/-! ### Conditions -/

/-- Whether a character belongs to a word. -/
def isWordChar (ascii : Bool) (c : Char) : Bool :=
  if ascii then c.isAlphanum || c = '_' else ShortClass.word.charSet.contains c

/-- Whether a character next to a place belongs to a word. -/
def isWordAt (ascii : Bool) (c : Option Char) : Bool :=
  c.any (isWordChar ascii)

/-- Whether a condition holds between two characters, of which either may be missing at an end. -/
def Look.holds (before after : Option Char) : Look → Bool
  | textStart => before.isNone
  | textEnd => after.isNone
  | lineStart => before.all (· = '\n')
  | lineEnd => after.all (· = '\n')
  | lineStartCrlf => before.all fun c => c = '\n' || (c = '\r' && after ≠ some '\n')
  | lineEndCrlf => after.all fun c => c = '\r' || (c = '\n' && before ≠ some '\r')
  | boundary ascii => isWordAt ascii before != isWordAt ascii after
  | noBoundary ascii => isWordAt ascii before == isWordAt ascii after
  | wordStart ascii => !isWordAt ascii before && isWordAt ascii after
  | wordEnd ascii => isWordAt ascii before && !isWordAt ascii after
  | wordStartHalf ascii => !isWordAt ascii before
  | wordEndHalf ascii => !isWordAt ascii after

/-- The truth of a condition at each place, from the one after `before` on. -/
def lookAlong (l : Look) (before : Option Char) : List Char → List Bool
  | [] => [l.holds before none]
  | c :: cs => l.holds before (some c) :: lookAlong l (some c) cs

/-! ### Plans -/

/-- A pattern for one text. -/
inductive Plan where
  /-- The empty text. -/
  | empty
  /-- One character, where the set holds the place before it. -/
  | step (at_ : Places)
  /-- The empty text, at the places of the set. -/
  | keep (at_ : Places)
  /-- One plan after another. -/
  | seq (first second : Plan)
  /-- One plan or another. -/
  | alt (left right : Plan)
  /-- A plan so many times in a row. -/
  | times (inner : Plan) (min : Nat) (max : Option Nat)

/-- The plan of a pattern for a text. -/
def plan (text : List Char) : Regex → Plan
  | empty => .empty
  | chars s => .step (placesOf (text.map s.contains))
  | look l => .keep (placesOf (lookAlong l none text))
  | seq a b => .seq (plan text a) (plan text b)
  | alt a b => .alt (plan text a) (plan text b)
  | times inner min max => .times (plan text inner) min max

/-- The places reached by going on so many times; going on is over once it changes nothing. -/
def advance (next : Places → Places) : Nat → Places → Places
  | 0, p => p
  | count + 1, p =>
    let q := next p
    if q = p then p else advance next count q

/-- The places reached by going on at most so many times. -/
def advanceUpTo (next : Places → Places) : Nat → Places → Places
  | 0, p => p
  | count + 1, p =>
    let q := p ||| next p
    if q = p then p else advanceUpTo next count q

/-- The places where a match can end that begins at one of the given places of a text with `n`
characters. -/
def Plan.ends (n : Nat) : Plan → Places → Places
  | empty, p => p
  | step at_, p => 2 * (p &&& at_)
  | keep at_, p => p &&& at_
  | seq a b, p => b.ends n (a.ends n p)
  | alt a b, p => a.ends n p ||| b.ends n p
  | times inner min max, p =>
    let start := advance (inner.ends n) min p
    match max with
    | none => advanceUpTo (inner.ends n) (n + 1) start
    | some max => advanceUpTo (inner.ends n) (max - min) start

/-- The places of a text where a match can end that begins at one of the given places. -/
def ends (r : Regex) (text : List Char) (p : Places) : Places :=
  (plan text r).ends text.length p

/-- Whether the pattern matches somewhere in the text. -/
def isMatch (r : Regex) (text : List Char) : Bool :=
  ends r text (allPlaces text.length) ≠ 0

end NameLint.Regex

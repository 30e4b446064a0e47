/-
Reading patterns.

`body` reads the parts of a group up to its closing parenthesis or the end of the
pattern, and it is for the caller to say which of the two it has to be.  So a whole
pattern is read like the inside of a group, only that nothing may be left.
-/
import NameLint.Regex.Class

namespace NameLint.Regex

/-! ### Repetitions -/

/-- Reads the mark of a reluctant repetition, if there is one. -/
def reluctance : Read Unit := do
  let _ ← skipIf ['?']

/-- Reads the sign of a repetition. -/
def repetitionSign : Read Unit := do
  skip
  reluctance

/-- What a fault put off until now was, or the value. -/
def settled : Except PatternError Nat → Read Nat
  | .ok n => return n
  | .error e => refuse e

/-- Reads the bounds of a counted repetition after its opening brace. -/
def bounds (verbose : Bool) : Read (Nat × Option Nat) := do
  skipWithGap verbose
  if ← atEnd then refuse .countUnclosed
  let low ← decimal verbose
  match ← peek? with
  | none => refuse .countUnclosed
  | some ',' =>
    skipWithGap verbose
    match ← peek? with
    | none => refuse .countUnclosed
    | some '\x7d' => return (← settled low, none)
    | some _ =>
      let low ← settled low
      let high ← settled (← decimal verbose)
      return (low, some high)
  | some _ =>
    let n ← settled low
    return (n, some n)

/-- Reads a counted repetition. -/
def count (verbose : Bool) : Read (Nat × Option Nat) := do
  let (low, high) ← bounds verbose
  if (← peek?) ≠ some '\x7d' then refuse .countUnclosed
  skipWithGap verbose
  reluctance
  if high.any (· < low) then refuse .countInvalid
  return (low, high)

/-! ### Groups -/

/-- The flag of a letter. -/
def flag? (c : Char) : Option Flag :=
  if c = 'i' then some .ignoreCase
  else if c = 'm' then some .multiLine
  else if c = 's' then some .dotAll
  else if c = 'U' then some .swapGreed
  else if c = 'u' then some .unicode
  else if c = 'R' then some .crlf
  else if c = 'x' then some .verbose
  else none

/-- Flags while they are read. -/
structure OpenFlags where
  /-- The flags so far. -/
  change : FlagChange := []
  /-- Whether a minus sign has been met. -/
  negated : Bool := false
  /-- Whether it was the last thing met. -/
  dangling : Bool := false

/-- The flags with what a character adds to them. -/
def OpenFlags.add (o : OpenFlags) (c : Char) : Except PatternError OpenFlags :=
  if c = '-' then
    if o.negated then .error .negationRepeated else .ok { o with negated := true, dangling := true }
  else
    match flag? c with
    | none => .error .flagUnknown
    | some f =>
      if o.change.any fun p => p.1 = f then .error .flagDuplicate
      else .ok { o with change := o.change ++ [(f, !o.negated)], dangling := false }

/-- Reads flags up to the character that ends them, and gives both; at most `fuel` characters. -/
def flagsFrom : Nat → OpenFlags → Read (OpenFlags × Char)
  | 0, _ => refuse .flagUnfinished
  | fuel + 1, o => do
    match ← peek? with
    | none => refuse .flagUnfinished
    | some c =>
      if c = ':' ∨ c = ')' then
        if o.dangling then refuse .negationDangling
        skip
        return (o, c)
      else
        let o ← (o.add c : Except PatternError OpenFlags)
        skip
        flagsFrom fuel o

/-- Whether the character may stand in the name of a group. -/
def isNameChar (first : Bool) (c : Char) : Bool :=
  c = '_' || (if first then Property.alphabetic.contains c
    else c = '.' || c = '[' || c = ']' || Property.alphanumeric.contains c)

/-- Reads the characters of a group name; at most `fuel` of them. -/
def nameChars : Nat → Bool → Read (List Char)
  | 0, _ => refuse .groupNameUnfinished
  | fuel + 1, first => do
    match ← peek? with
    | none => refuse .groupNameUnfinished
    | some '>' => return []
    | some c =>
      if ¬ isNameChar first c then refuse .groupNameInvalid
      skip
      return c :: (← nameChars fuel false)

/-- Reads the name of a group, which no other group may have. -/
def groupName : Read Unit := do
  let name ← nameChars ((← rest).length + 1) true
  skip
  if name.isEmpty then refuse .groupNameEmpty
  if (← get).names.contains name then refuse .groupNameDuplicate
  modify fun s => { s with names := name :: s.names }

/-- What an opening parenthesis begins. -/
inductive Opening where
  /-- A change of flags for the rest of the group it stands in. -/
  | change (change : FlagChange)
  /-- A group with flags of its own. -/
  | group (change : FlagChange)

/-- Reads an opening parenthesis with what belongs to it. -/
def opening (verbose : Bool) : Read Opening := do
  skipWithGap verbose
  let left ← rest
  if ["?=".toList, "?!".toList, "?<=".toList, "?<!".toList].any (·.isPrefixOf left) then
    refuse .lookAround
  else if (← skipIf "?P<".toList) then
    groupName
    return .group []
  else if (← skipIf "?<".toList) then
    groupName
    return .group []
  else if (← skipIf "?".toList) then
    if ← atEnd then refuse .groupUnclosed
    let (o, ending) ← flagsFrom ((← rest).length + 1) {}
    if ending = ':' then return .group o.change
    else if o.change.isEmpty ∧ ¬ o.negated then refuse .repetitionMissing
    else return .change o.change
  else return .group []

/-! ### Bodies -/

/-- The inside of a group while it is read. -/
structure OpenGroup where
  /-- Whether the pattern is verbose. -/
  verbose : Bool
  /-- The branches before the current one, the latest first. -/
  branches : List Expr := []
  /-- The parts of the current branch, the latest first. -/
  parts : List Expr := []

namespace OpenGroup

/-- The inside as read so far. -/
def toExpr (o : OpenGroup) : Expr :=
  Expr.oneOf ((Expr.inSequence o.parts.reverse :: o.branches).reverse)

/-- The inside with one more part. -/
def push (o : OpenGroup) (e : Expr) : OpenGroup :=
  { o with parts := e :: o.parts }

/-- The inside with a new branch begun. -/
def branch (o : OpenGroup) : OpenGroup :=
  { o with branches := Expr.inSequence o.parts.reverse :: o.branches, parts := [] }

/-- The inside without its last part, and that part, which a repetition may follow. -/
def popRepeatable (o : OpenGroup) : Read (Expr × OpenGroup) :=
  match o.parts with
  | e :: parts =>
    if e.isRepeatable then return (e, { o with parts := parts }) else refuse .repetitionMissing
  | [] => refuse .repetitionMissing

/-- The inside with its last part repeated. -/
def repeated (o : OpenGroup) (bounds : Read (Nat × Option Nat)) : Read OpenGroup := do
  let (e, o) ← o.popRepeatable
  let (low, high) ← bounds
  return o.push (.repetition e low high)

end OpenGroup

/-- Whether a change of flags makes the pattern verbose, or what it was before. -/
def verboseAfter (change : FlagChange) (verbose : Bool) : Bool :=
  (change.lookup .verbose).getD verbose

/-- Reads the inside of a group; each step takes at least one of `fuel`. -/
def body : Nat → OpenGroup → Read Expr
  | 0, _ => refuse .groupUnclosed
  | fuel + 1, o => do
    skipGap o.verbose
    match ← peek? with
    | none => return o.toExpr
    | some ')' => return o.toExpr
    | some '(' =>
      match ← opening o.verbose with
      | .change change =>
        body fuel ({ o with verbose := verboseAfter change o.verbose }.push (.flags change))
      | .group change =>
        let inner ← body fuel { verbose := verboseAfter change o.verbose }
        if ← atEnd then refuse .groupUnclosed
        skip
        body fuel (o.push (.group change inner))
    | some '|' =>
      skip
      body fuel o.branch
    | some '[' => body fuel (o.push (.chars (← bracketedClass o.verbose)))
    | some '?' => body fuel (← o.repeated (do repetitionSign; return (0, some 1)))
    | some '*' => body fuel (← o.repeated (do repetitionSign; return (0, none)))
    | some '+' => body fuel (← o.repeated (do repetitionSign; return (1, none)))
    | some '\x7b' => body fuel (← o.repeated (count o.verbose))
    | some _ => body fuel (o.push (← primitive o.verbose))

/-- Reads a whole pattern. -/
def pattern (fuel : Nat) : Read Expr := do
  let e ← body fuel { verbose := false }
  if ← atEnd then return e else refuse .groupUnopened

/-- The pattern that a text spells. -/
def Expr.parse (text : List Char) : Except PatternError Expr := do
  let e ← (pattern (text.length + 1)).run' ⟨text, []⟩
  if e.depth ≤ nestLimit then return e else throw .nestedTooDeep

end NameLint.Regex

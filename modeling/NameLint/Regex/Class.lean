/-
Reading classes in brackets.

A class holds characters, ranges, escapes and further classes side by side, and may put
operations between them, which bind alike and to the left.  A hyphen or a closing bracket
at the very front stands for itself.
-/
import NameLint.Regex.Escape

namespace NameLint.Regex

/-! ### Items -/

/-- Reads a character or an escape inside brackets. -/
def classPart (verbose : Bool) : Read Expr := do
  match ← peek? with
  | none => refuse .classUnclosed
  | some '\\' => escape verbose
  | some c =>
    skip
    return .literal ⟨c, false⟩

/-- The class that a part stands for. -/
def partClass : Expr → Read ClassExpr
  | .literal l => return .literal l
  | .chars c => return c
  | _ => refuse .classEscapeInvalid

/-- The character that a part stands for as an end of a range. -/
def rangeEnd : Expr → Read Literal
  | .literal l => return l
  | _ => refuse .classRangeNotLiteral

/-- The character after the next one; a verbose pattern passes over blanks and the sign of a
comment. -/
def second? (verbose : Bool) : List Char → Option Char
  | [] => none
  | _ :: cs =>
    if verbose then
      match Text.trimStart cs with
      | '#' :: cs => (Text.trimStart cs).head?
      | cs => cs.head?
    else cs.head?

/-- Reads a class of one part, or a range. -/
def classItem (verbose : Bool) : Read ClassExpr := do
  let first ← classPart verbose
  skipGap verbose
  let left ← rest
  if left.isEmpty then refuse .classUnclosed
  else if left.head? ≠ some '-' ∨ second? verbose left = some ']'
      ∨ second? verbose left = some '-' then
    partClass first
  else
    skipWithGap verbose
    if ← atEnd then refuse .classUnclosed
    let last ← classPart verbose
    let lo ← rangeEnd first
    let hi ← rangeEnd last
    if hi.char < lo.char then refuse .classRangeInvalid
    return .range lo hi

/-! ### Named classes -/

/-- The names of the named classes. -/
def namedClasses : List (String × NamedClass) :=
  [("alnum", .alnum), ("alpha", .alpha), ("ascii", .ascii), ("blank", .blank), ("cntrl", .cntrl),
    ("digit", .digit), ("graph", .graph), ("lower", .lower), ("print", .print), ("punct", .punct),
    ("space", .space), ("upper", .upper), ("word", .word), ("xdigit", .xdigit)]

/-- The named class at the front and the text after it. -/
def namedClass? : List Char → Option (ClassExpr × List Char)
  | '[' :: ':' :: cs =>
    let negated := cs.head? = some '^'
    let cs := if negated then cs.tail else cs
    match splitAtFirst [':'] cs with
    | some (name, ']' :: after) =>
      (namedClasses.lookup (String.ofList name)).map fun c => (.named negated c, after)
    | _ => none
  | _ => none

/-! ### Brackets -/

/-- Passes over a character of an opened class, which may not end there. -/
def skipInClass (verbose : Bool) : Read Unit := do
  skipWithGap verbose
  if ← atEnd then refuse .classUnclosed

/-- Reads hyphens at the front of a class; at most `fuel` of them. -/
def leadingHyphens (verbose : Bool) : Nat → Read (List ClassExpr)
  | 0 => return []
  | fuel + 1 => do
    if (← peek?) = some '-' then
      skipInClass verbose
      return .literal ⟨'-', false⟩ :: (← leadingHyphens verbose fuel)
    else return []

/-- Reads the front of a class: whether it is negated, and what stands for itself there. -/
def classFront (verbose : Bool) : Read (Bool × List ClassExpr) := do
  skipInClass verbose
  let negated := (← peek?) = some '^'
  if negated then skipInClass verbose
  let hyphens ← leadingHyphens verbose (← rest).length
  if hyphens.isEmpty ∧ (← peek?) = some ']' then
    skipInClass verbose
    return (negated, [.literal ⟨']', false⟩])
  else return (negated, hyphens)

/-- The operation at the front. -/
def classOp? : List Char → Option ClassOp
  | '&' :: '&' :: _ => some .intersection
  | '-' :: '-' :: _ => some .difference
  | '~' :: '~' :: _ => some .symmetricDifference
  | _ => none

/-- A class while it is read. -/
structure OpenClass where
  /-- What stands before the last operation, and that operation. -/
  before : Option (ClassExpr × ClassOp) := none
  /-- What has been read after it, the latest first. -/
  items : List ClassExpr := []

/-- The class as read so far. -/
def OpenClass.toExpr (o : OpenClass) : ClassExpr :=
  let items := ClassExpr.anyOf o.items.reverse
  match o.before with
  | some (left, operation) => .op operation left items
  | none => items

/-- The class with one more item. -/
def OpenClass.push (o : OpenClass) (c : ClassExpr) : OpenClass :=
  { o with items := c :: o.items }

/-- Reads a class to its closing bracket; each step takes at least one of `fuel`. -/
def classRest (verbose : Bool) : Nat → OpenClass → Read ClassExpr
  | 0, _ => refuse .classUnclosed
  | fuel + 1, o => do
    skipGap verbose
    let left ← rest
    match left with
    | [] => refuse .classUnclosed
    | ']' :: after =>
      goOn after
      return o.toExpr
    | '[' :: _ =>
      match namedClass? left with
      | some (c, after) =>
        goOn after
        classRest verbose fuel (o.push c)
      | none =>
        let (negated, items) ← classFront verbose
        let inner ← classRest verbose fuel { items := items.reverse }
        classRest verbose fuel (o.push (.bracketed negated inner))
    | _ =>
      match classOp? left with
      | some operation =>
        goOn (left.drop 2)
        classRest verbose fuel { before := some (o.toExpr, operation) }
      | none => classRest verbose fuel (o.push (← classItem verbose))

/-- Reads a class in brackets. -/
def bracketedClass (verbose : Bool) : Read ClassExpr := do
  let (negated, items) ← classFront verbose
  let inner ← classRest verbose ((← rest).length + 1) { items := items.reverse }
  return .bracketed negated inner

end NameLint.Regex

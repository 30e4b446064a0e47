/-
From written patterns to what they match.

Resolving a pattern gives its flags their effect: a `Regex` has sets of characters for
classes and conditions that no longer depend on flags.  Flags hold from where they are
set to the end of their group, and so are handed on from part to part.

Without the flag for Unicode, classes hold bytes.  A byte above 0x7F is not a character,
so every class that holds one is refused, and with it every negated class.
-/
import NameLint.Regex.Property
import NameLint.Unicode.Folding

namespace NameLint

/-- A condition on a place between characters; `ascii` if only ASCII letters make words. -/
inductive Regex.Look where
  /-- The start of the text. -/
  | textStart
  /-- The end of the text. -/
  | textEnd
  /-- The start of a line. -/
  | lineStart
  /-- The end of a line. -/
  | lineEnd
  /-- The start of a line, where carriage returns end lines too. -/
  | lineStartCrlf
  /-- The end of a line, where carriage returns end lines too. -/
  | lineEndCrlf
  /-- The start or the end of a word. -/
  | boundary (ascii : Bool)
  /-- Neither the start nor the end of a word. -/
  | noBoundary (ascii : Bool)
  /-- The start of a word. -/
  | wordStart (ascii : Bool)
  /-- The end of a word. -/
  | wordEnd (ascii : Bool)
  /-- A place with no word character before it. -/
  | wordStartHalf (ascii : Bool)
  /-- A place with no word character after it. -/
  | wordEndHalf (ascii : Bool)
deriving DecidableEq, Repr

/-- A pattern as what it matches. -/
inductive Regex where
  /-- The empty text. -/
  | empty
  /-- One character of a set. -/
  | chars (s : CharSet)
  /-- The empty text at a place with a property. -/
  | look (l : Regex.Look)
  /-- One pattern after another. -/
  | seq (first second : Regex)
  /-- One pattern or another. -/
  | alt (left right : Regex)
  /-- A pattern so many times in a row, without an upper bound if there is none. -/
  | times (inner : Regex) (min : Nat) (max : Option Nat)
deriving Repr, Inhabited

namespace Regex

/-! ### Flags -/

/-- The flags in force. -/
structure Flags where
  /-- Whether letters match in either case. -/
  ignoreCase : Bool := false
  /-- Whether line anchors match at every line. -/
  multiLine : Bool := false
  /-- Whether the dot matches line ends. -/
  dotAll : Bool := false
  /-- Whether classes hold characters of all scripts. -/
  unicode : Bool := true
  /-- Whether carriage returns end lines. -/
  crlf : Bool := false
deriving DecidableEq, Repr

/-- The flags with one of them set; those that change only how a match is found are left out. -/
def Flags.set (f : Flags) (flag : Flag) (on : Bool) : Flags :=
  match flag with
  | .ignoreCase => { f with ignoreCase := on }
  | .multiLine => { f with multiLine := on }
  | .dotAll => { f with dotAll := on }
  | .unicode => { f with unicode := on }
  | .crlf => { f with crlf := on }
  | .swapGreed | .verbose => f

/-- The flags after a change. -/
def Flags.after (f : Flags) (change : FlagChange) : Flags :=
  change.foldl (fun f p => f.set p.1 p.2) f

/-! ### Classes -/

/-- The Unicode characters of a class with a letter of its own. -/
def ShortClass.charSet : ShortClass → CharSet
  | digit => Category.decimalNumber
  | space => Property.whiteSpace
  | word =>
    .unions [Property.alphabetic, Category.mark, Category.decimalNumber,
      Category.connectorPunctuation, Property.joinControl]

/-- The ASCII characters of a named class. -/
def NamedClass.charSet : NamedClass → CharSet
  | alnum => .ofText "30-39 41-5A 61-7A"
  | alpha => .ofText "41-5A 61-7A"
  | ascii => .ofText "0-7F"
  | blank => .ofText "9 20"
  | cntrl => .ofText "0-1F 7F"
  | digit => .ofText "30-39"
  | graph => .ofText "21-7E"
  | lower => .ofText "61-7A"
  | print => .ofText "20-7E"
  | punct => .ofText "21-2F 3A-40 5B-60 7B-7E"
  | space => .ofText "9-D 20"
  | upper => .ofText "41-5A"
  | word => .ofText "30-39 41-5A 5F 61-7A"
  | xdigit => .ofText "30-39 41-46 61-66"

/-- The ASCII characters of a class with a letter of its own. -/
def ShortClass.asciiSet : ShortClass → CharSet
  | digit => NamedClass.digit.charSet
  | space => NamedClass.space.charSet
  | word => NamedClass.word.charSet

/-- The set with the other case of its ASCII letters. -/
def closeAscii (s : CharSet) : CharSet :=
  let upper := s.inter (.range 0x41 0x5A)
  let lower := s.inter (.range 0x61 0x7A)
  .ofRanges (s.ranges ++ upper.ranges.map (fun r => (r.1 + 32, r.2 + 32))
    ++ lower.ranges.map fun r => (r.1 - 32, r.2 - 32))

/-- The set with the other cases of its characters, if case is to be ignored. -/
def Flags.close (f : Flags) (s : CharSet) : CharSet :=
  if ¬ f.ignoreCase then s else if f.unicode then Folding.close s else closeAscii s

/-- The set, or all other characters, with case ignored before if it is to be. -/
def Flags.foldAndNegate (f : Flags) (negated : Bool) (s : CharSet) : Except PatternError CharSet :=
  if ¬ negated then .ok (f.close s)
  else if f.unicode then .ok (f.close s).complement
  else .error .notText

/-- The code point of a character in a class; without Unicode it has to be ASCII. -/
def Flags.classCode (f : Flags) (l : Literal) : Except PatternError Nat :=
  if f.unicode ∨ l.char.toNat < 0x80 then .ok l.char.toNat
  else .error (if l.isByte then .notText else .propertyNotAllowed)

mutual

/-- The set of a class, before case is ignored in it. -/
def ClassExpr.charSet (f : Flags) : ClassExpr → Except PatternError CharSet
  | .nothing => .ok .empty
  | .literal l => do return .single (← f.classCode l)
  | .range lo hi => do return .range (← f.classCode lo) (← f.classCode hi)
  | .short negated c =>
    if f.unicode then .ok (if negated then c.charSet.complement else c.charSet)
    else if negated then .error .notText
    else .ok c.asciiSet
  | .named negated c => f.foldAndNegate negated c.charSet
  | .property negated query =>
    if f.unicode then do f.foldAndNegate negated (← query.charSet)
    else .error .propertyNotAllowed
  | .bracketed negated inner => do f.foldAndNegate negated (← inner.charSet f)
  | .union items => do return .unions (← classSets f items)
  | .op operation left right => do
    let left := f.close (← left.charSet f)
    let right := f.close (← right.charSet f)
    return match operation with
      | .intersection => left.inter right
      | .difference => left.minus right
      | .symmetricDifference => left.symmDiff right

/-- The sets of several classes. -/
def classSets (f : Flags) : List ClassExpr → Except PatternError (List CharSet)
  | [] => .ok []
  | c :: rest => do
    let s ← c.charSet f
    return s :: (← classSets f rest)

end

/-! ### Parts -/

/-- The set of a character outside of brackets. -/
def Flags.literalSet (f : Flags) (l : Literal) : Except PatternError CharSet :=
  if ¬ f.unicode ∧ l.isByte ∧ 0x80 ≤ l.char.toNat then .error .notText
  else .ok (f.close (.single l.char.toNat))

/-- The characters that the dot stands for. -/
def Flags.dotSet (f : Flags) : Except PatternError CharSet :=
  if ¬ f.unicode then .error .notText
  else if f.dotAll then .ok .all
  else if f.crlf then .ok (CharSet.ofText "A D").complement
  else .ok (CharSet.single 0xA).complement

/-- The condition that an assertion stands for. -/
def Flags.look (f : Flags) : Assertion → Look
  | .lineStart =>
    if ¬ f.multiLine then .textStart else if f.crlf then .lineStartCrlf else .lineStart
  | .lineEnd => if ¬ f.multiLine then .textEnd else if f.crlf then .lineEndCrlf else .lineEnd
  | .textStart => .textStart
  | .textEnd => .textEnd
  | .boundary => .boundary (!f.unicode)
  | .noBoundary => .noBoundary (!f.unicode)
  | .wordStart => .wordStart (!f.unicode)
  | .wordEnd => .wordEnd (!f.unicode)
  | .wordStartHalf => .wordStartHalf (!f.unicode)
  | .wordEndHalf => .wordEndHalf (!f.unicode)

/-! ### Patterns -/

/-- A pattern that matches nothing. -/
def nothing : Regex := .chars .empty

mutual

/-- What a pattern matches under the given flags, and the flags after it. -/
def Expr.resolve (f : Flags) : Expr → Except PatternError (Regex × Flags)
  | .empty => .ok (.empty, f)
  | .flags change => .ok (.empty, f.after change)
  | .literal l => do return (.chars (← f.literalSet l), f)
  | .dot => do return (.chars (← f.dotSet), f)
  | .assertion a => .ok (.look (f.look a), f)
  | .chars c => do return (.chars (← c.charSet f), f)
  | .repetition inner min max => do
    let (r, f) ← inner.resolve f
    return (.times r min max, f)
  | .group change inner => do
    let (r, _) ← inner.resolve (f.after change)
    return (r, f)
  | .sequence parts => resolveSequence f parts
  | .choice branches => resolveChoice f branches

/-- What patterns match after one another. -/
def resolveSequence (f : Flags) : List Expr → Except PatternError (Regex × Flags)
  | [] => .ok (.empty, f)
  | e :: rest => do
    let (r, f) ← e.resolve f
    let (s, f) ← resolveSequence f rest
    return (.seq r s, f)

/-- What any of several patterns matches. -/
def resolveChoice (f : Flags) : List Expr → Except PatternError (Regex × Flags)
  | [] => .ok (nothing, f)
  | e :: rest => do
    let (r, f) ← e.resolve f
    let (s, f) ← resolveChoice f rest
    return (.alt r s, f)

end

end Regex

end NameLint

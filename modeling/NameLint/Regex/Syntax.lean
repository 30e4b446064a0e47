/-
The written form of patterns.

An `Expr` is a pattern as it is written, before flags have their effect.  How deep its
parts nest is a property of the written form: a class counts as its brackets do, and a
sequence or a choice counts only if it has more than one part.
-/
import NameLint.Regex.Error

namespace NameLint.Regex

/-! ### Flags -/

/-- A switch that changes what the rest of its group means. -/
inductive Flag where
  /-- Letters match in either case. -/
  | ignoreCase
  /-- Line anchors match at every line. -/
  | multiLine
  /-- The dot matches line ends too. -/
  | dotAll
  /-- Greedy and reluctant repetitions trade places. -/
  | swapGreed
  /-- Classes hold characters of all scripts. -/
  | unicode
  /-- Carriage returns end lines too. -/
  | crlf
  /-- Blanks and comments between the parts are passed over. -/
  | verbose
deriving DecidableEq, Repr

/-- Flags with whether they are switched on. -/
abbrev FlagChange := List (Flag × Bool)

/-! ### Classes -/

/-- A character as written; `isByte` if by the two hexadecimal digits of a byte. -/
structure Literal where
  /-- The character. -/
  char : Char
  /-- Whether it is written as a byte. -/
  isByte : Bool := false
deriving DecidableEq, Repr

/-- The classes with a letter of their own. -/
inductive ShortClass where
  | digit
  | space
  | word
deriving DecidableEq, Repr

/-- The named classes of ASCII characters. -/
inductive NamedClass where
  | alnum
  | alpha
  | ascii
  | blank
  | cntrl
  | digit
  | graph
  | lower
  | print
  | punct
  | space
  | upper
  | word
  | xdigit
deriving DecidableEq, Repr

/-- What a property escape asks for. -/
inductive PropertyQuery where
  /-- A category by its one letter. -/
  | letter (c : Char)
  /-- A property, category or script by its name. -/
  | named (name : List Char)
  /-- A property together with its value. -/
  | valued (name value : List Char)
deriving DecidableEq, Repr

/-- An operation on two classes. -/
inductive ClassOp where
  | intersection
  | difference
  | symmetricDifference
deriving DecidableEq, Repr

/-- A class as written. -/
inductive ClassExpr where
  /-- No characters. -/
  | nothing
  /-- One character. -/
  | literal (l : Literal)
  /-- The characters from one to another. -/
  | range (lo hi : Literal)
  /-- A class with a letter of its own. -/
  | short (negated : Bool) (c : ShortClass)
  /-- A named class of ASCII characters. -/
  | named (negated : Bool) (c : NamedClass)
  /-- The characters with a property. -/
  | property (negated : Bool) (query : PropertyQuery)
  /-- A class in brackets. -/
  | bracketed (negated : Bool) (inner : ClassExpr)
  /-- At least two classes side by side. -/
  | union (items : List ClassExpr)
  /-- Two classes with an operation between them. -/
  | op (operation : ClassOp) (left right : ClassExpr)
deriving Repr

mutual

/-- How deep the brackets, unions and operations of a class nest. -/
def ClassExpr.depth : ClassExpr → Nat
  | .bracketed _ inner => inner.depth + 1
  | .union items => classDepths items + 1
  | .op _ left right => max left.depth right.depth + 1
  | _ => 0

/-- The greatest depth of any of the classes. -/
def classDepths : List ClassExpr → Nat
  | [] => 0
  | item :: rest => max item.depth (classDepths rest)

end

/-! ### Patterns -/

/-- A condition on a place between characters. -/
inductive Assertion where
  /-- The start of the text or, with the flag for it, of a line. -/
  | lineStart
  /-- The end of the text or, with the flag for it, of a line. -/
  | lineEnd
  /-- The start of the text. -/
  | textStart
  /-- The end of the text. -/
  | textEnd
  /-- The start or the end of a word. -/
  | boundary
  /-- Neither the start nor the end of a word. -/
  | noBoundary
  /-- The start of a word. -/
  | wordStart
  /-- The end of a word. -/
  | wordEnd
  /-- A place with no word character before it. -/
  | wordStartHalf
  /-- A place with no word character after it. -/
  | wordEndHalf
deriving DecidableEq, Repr

/-- A pattern as written. -/
inductive Expr where
  /-- The empty pattern. -/
  | empty
  /-- A change of flags for the rest of the group. -/
  | flags (change : FlagChange)
  /-- A character. -/
  | literal (l : Literal)
  /-- Any character. -/
  | dot
  /-- A condition. -/
  | assertion (a : Assertion)
  /-- One character of a class. -/
  | chars (c : ClassExpr)
  /-- A pattern so many times in a row, without an upper bound if there is none. -/
  | repetition (inner : Expr) (min : Nat) (max : Option Nat)
  /-- A pattern in parentheses, with flags of its own. -/
  | group (change : FlagChange) (inner : Expr)
  /-- At least two patterns after one another. -/
  | sequence (parts : List Expr)
  /-- At least two patterns to choose from. -/
  | choice (branches : List Expr)
deriving Repr

namespace Expr

mutual

/-- How deep the parts of a pattern nest. -/
def depth : Expr → Nat
  | .chars c => c.depth
  | .repetition inner _ _ => inner.depth + 1
  | .group _ inner => inner.depth + 1
  | .sequence parts => depths parts + 1
  | .choice branches => depths branches + 1
  | _ => 0

/-- The greatest depth of any of the patterns. -/
def depths : List Expr → Nat
  | [] => 0
  | e :: rest => max e.depth (depths rest)

end

/-- Patterns after one another. -/
def inSequence : List Expr → Expr
  | [] => empty
  | [e] => e
  | parts => sequence parts

/-- Patterns to choose from. -/
def oneOf : List Expr → Expr
  | [] => empty
  | [e] => e
  | branches => choice branches

/-- Whether a repetition may follow the pattern. -/
def isRepeatable : Expr → Bool
  | empty | flags _ => false
  | _ => true

end Expr

/-- Classes side by side. -/
def ClassExpr.anyOf : List ClassExpr → ClassExpr
  | [] => nothing
  | [c] => c
  | items => union items

end NameLint.Regex

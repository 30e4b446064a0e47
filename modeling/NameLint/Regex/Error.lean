/-
Why a pattern is refused.

Most causes are faults in the way the pattern is written, in the order in which reading
it from the left meets them.  The last few arise from patterns that are written well but
ask for what there is not, or for too much.
-/

namespace NameLint.Regex

/-- The greatest number of groups, repetitions and classes inside one another. -/
def nestLimit : Nat := 250

/-- The greatest size of a pattern, in bytes of its compiled form. -/
def sizeLimit : Nat := 10485760

/-- The cause for refusing a pattern. -/
inductive PatternError where
  | groupUnclosed
  | groupUnopened
  | classUnclosed
  | repetitionMissing
  | countEmpty
  | countUnclosed
  | countInvalid
  | decimalInvalid
  | escapeUnknown
  | escapeUnfinished
  | classEscapeInvalid
  | classRangeInvalid
  | classRangeNotLiteral
  | flagUnknown
  | flagDuplicate
  | flagUnfinished
  | negationDangling
  | negationRepeated
  | groupNameInvalid
  | groupNameEmpty
  | groupNameDuplicate
  | groupNameUnfinished
  | lookAround
  | backreference
  | hexDigitInvalid
  | hexEmpty
  | hexInvalid
  | propertyInvalid
  | boundaryUnknown
  | boundaryUnclosed
  | boundaryUnfinished
  | nestedTooDeep
  | propertyUnknown
  | propertyValueUnknown
  | propertyNotAllowed
  | notText
  | tooLarge
deriving DecidableEq, Repr

/-- The wording of a cause. -/
def PatternError.message : PatternError → String
  | groupUnclosed => "unclosed group"
  | groupUnopened => "unopened group"
  | classUnclosed => "unclosed character class"
  | repetitionMissing => "repetition operator missing expression"
  | countEmpty => "repetition quantifier expects a valid decimal"
  | countUnclosed => "unclosed counted repetition"
  | countInvalid => "invalid repetition count range, the start must be <= the end"
  | decimalInvalid => "decimal literal invalid"
  | escapeUnknown => "unrecognized escape sequence"
  | escapeUnfinished => "incomplete escape sequence, reached end of pattern prematurely"
  | classEscapeInvalid => "invalid escape sequence found in character class"
  | classRangeInvalid => "invalid character class range, the start must be <= the end"
  | classRangeNotLiteral => "invalid range boundary, must be a literal"
  | flagUnknown => "unrecognized flag"
  | flagDuplicate => "duplicate flag"
  | flagUnfinished => "expected flag but got end of regex"
  | negationDangling => "dangling flag negation operator"
  | negationRepeated => "flag negation operator repeated"
  | groupNameInvalid => "invalid capture group character"
  | groupNameEmpty => "empty capture group name"
  | groupNameDuplicate => "duplicate capture group name"
  | groupNameUnfinished => "unclosed capture group name"
  | lookAround => "look-around, including look-ahead and look-behind, is not supported"
  | backreference => "backreferences are not supported"
  | hexDigitInvalid => "invalid hexadecimal digit"
  | hexEmpty => "hexadecimal literal empty"
  | hexInvalid => "hexadecimal literal is not a Unicode scalar value"
  | propertyInvalid => "invalid Unicode character class"
  | boundaryUnknown =>
    "unrecognized special word boundary assertion, valid choices are: start, end, start-half "
      ++ "or end-half"
  | boundaryUnclosed =>
    "special word boundary assertion is either unclosed or contains an invalid character"
  | boundaryUnfinished =>
    "found either the beginning of a special word boundary or a bounded repetition on a \\b "
      ++ "with an opening brace, but no closing brace"
  | nestedTooDeep => "exceed the maximum number of nested parentheses/brackets (250)"
  | propertyUnknown => "Unicode property not found"
  | propertyValueUnknown => "Unicode property value not found"
  | propertyNotAllowed => "Unicode not allowed here"
  | notText => "pattern can match invalid UTF-8"
  | tooLarge => "compiled pattern exceeds the size limit of 10485760 bytes"

end NameLint.Regex

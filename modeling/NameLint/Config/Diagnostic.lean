/-
Diagnostics: what is wrong with a configuration.

Every diagnostic names the key it is about.  A key with a diagnostic counts as not set;
a key that is not known is an error, everything else a matter of style.
-/
import NameLint.Regex.Error
import NameLint.Violation

namespace NameLint

/-- A defect of a configuration. -/
inductive Diagnostic where
  /-- A value has another shape than its key asks for. -/
  | wrongShape (key expected actual : String)
  /-- A pattern is refused. -/
  | invalidRegex (key item : String) (cause : Regex.PatternError)
  /-- A pattern is mapped to something that is no outcome. -/
  | invalidOutcome (key item : String)
  /-- An item of a list or dictionary has a wrong shape. -/
  | itemShape (key item expected actual : String)
  /-- A text is none of the choices. -/
  | invalidChoice (key value choices : String)
  /-- A key is not known. -/
  | unknownKey (key : String)
deriving DecidableEq, Repr

namespace Diagnostic

/-- The key that a diagnostic is about. -/
def key : Diagnostic → String
  | wrongShape key .. | invalidRegex key .. | invalidOutcome key _ | itemShape key ..
  | invalidChoice key .. | unknownKey key => key

/-- How much a diagnostic weighs. -/
def severity : Diagnostic → Severity
  | unknownKey _ => .error
  | _ => .style

/-- The code of a kind of diagnostics. -/
def code : Diagnostic → String
  | wrongShape .. => "namingng::config::wrong_shape"
  | invalidRegex .. => "namingng::config::invalid_regex"
  | invalidOutcome .. => "namingng::config::invalid_outcome"
  | itemShape .. => "namingng::config::item_shape"
  | invalidChoice .. => "namingng::config::invalid_choice"
  | unknownKey _ => "namingng::config::unknown_key"

/-- The wording of a diagnostic. -/
def message : Diagnostic → String
  | wrongShape key expected actual =>
    key ++ " must be " ++ expected ++ " (not " ++ actual ++ "), or not set"
  | invalidRegex key item cause =>
    "item '" ++ item ++ "' of '" ++ key ++ "' is not a valid regular expression: " ++ cause.message
  | invalidOutcome key item =>
    "item '" ++ item ++ "' of '" ++ key ++ "' must be an array [bool,string]"
  | itemShape key item expected actual =>
    "item '" ++ item ++ "' of '" ++ key ++ "' must be " ++ expected ++ " (not " ++ actual ++ ")"
  | invalidChoice key value choices =>
    key ++ " must be one of " ++ choices ++ " (not '" ++ value ++ "')"
  | unknownKey key => "unknown config key '" ++ key ++ "'"

end Diagnostic

end NameLint

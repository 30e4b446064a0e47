/-
Why a document could not be loaded.
-/
import NameLint.File.Access
import NameLint.Json.Error

namespace NameLint

/-- The cause of a failure to load a document. -/
inductive LoadError where
  /-- The file could not be read. -/
  | unreadable (path : Path) (cause : FileError)
  /-- The text is not the JSON document asked for. -/
  | json (cause : Json.ReadError)
  /-- The text is not a TOML document. -/
  | toml
  /-- The document is a value of another shape than a dictionary. -/
  | notADict (shape : String)
deriving DecidableEq, Repr

namespace LoadError

/-- The wording of a failure. -/
def message : LoadError → String
  | unreadable path cause => "Failed to read " ++ path.shown ++ ": " ++ cause.message
  | json cause => "Failed to parse JSON: " ++ cause.message
  | toml => "Failed to parse TOML: invalid document"
  | notADict shape => "config document must be a dict (not " ++ shape ++ ")"

/-- The code of a failure. -/
def code : LoadError → String
  | unreadable .. => "namingng::load::io"
  | json _ => "namingng::load::json"
  | toml => "namingng::load::toml"
  | notADict _ => "namingng::load::not_a_dict"

end LoadError

end NameLint

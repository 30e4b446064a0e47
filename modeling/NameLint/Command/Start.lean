/-
A first configuration for a project.
-/
import NameLint.Command.Outcome

namespace NameLint.Command.Start

variable {m : Type → Type} [Monad m]

/-- The path of the configuration. -/
def path : Path := "namingng.json"

/-- The first configuration. -/
def document : String :=
"\x7b
    \"_comment\": \"Keys starting with '_' are ignored. Patterns must match the whole name.\",
    \"RE_FILE\": [\"[^/]*[a-z][a-z0-9_]*[a-z0-9]\\\\.(c|h|cpp)\\\\Z\"],
    \"RE_NAMESPACE\": [\"[a-z][a-z0-9_]*[a-z0-9]\\\\Z\"],
    \"RE_VARNAME\": [\"[a-z][a-z0-9_]*[a-z0-9]\\\\Z\"],
    \"RE_PRIVATE_MEMBER_VARIABLE\": \x7b
        \".*_tmp\\\\Z\": [true, \"illegal suffix _tmp\"]
    \x7d,
    \"RE_PUBLIC_MEMBER_VARIABLE\": null,
    \"RE_GLOBAL_VARNAME\": [\"g_[a-z][a-z0-9_]*\\\\Z\"],
    \"RE_FUNCTIONNAME\": [\"[a-z][a-z0-9_]*[a-z0-9]\\\\Z\"],
    \"RE_CLASS_NAME\": [\"[A-Z][a-zA-Z0-9]*\\\\Z\"],
    \"include_guard\": \x7b
        \"input\": \"basename\",
        \"prefix\": \"\",
        \"suffix\": \"\",
        \"case\": \"upper\",
        \"max_linenr\": 5,
        \"RE_HEADERFILE\": \"[^/].*\\\\.h\\\\Z\",
        \"required\": true
    \x7d,
    \"var_prefixes\": \x7b\x7d,
    \"function_prefixes\": \x7b\x7d,
    \"skip_one_char_variables\": false
\x7d
"

/-- What is printed about a configuration that has been written. -/
def lines : List String :=
  ["Created " ++ path.shown, "", "Next steps:",
    "  1. Edit " ++ path.shown ++ " to match your conventions",
    "  2. Run: namingng validate-config", "  3. Run: namingng check path/to/dumps"]

/-- Writes the configuration.  One that is there already is kept unless `force` is set. -/
def run (files : FileAccess m) (force : Bool) : m Outcome := do
  if (← files.isPresent path) && !force then return (Failure.configExists path).outcome
  match ← files.write path document with
  | .ok () => return { out := lines }
  | .error cause => return (Failure.unwritable path cause).outcome

end NameLint.Command.Start

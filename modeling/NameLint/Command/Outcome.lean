/-
What a command leaves behind: texts on two outputs and a status.

The commands print whole lines.  Log lines are no part of an outcome.
-/
import NameLint.File.LoadError
import NameLint.Ignore.Walk
import NameLint.Json.Writer

namespace NameLint.Command

/-- What a command has printed, and the status it ends with. -/
structure Outcome where
  /-- The lines on the standard output. -/
  out : List String := []
  /-- The lines on the error output. -/
  err : List String := []
  /-- The status; zero if all is well. -/
  status : Nat := 0
deriving DecidableEq, Repr

/-- Why a command gave up. -/
inductive Failure where
  /-- The configuration could not be read. -/
  | unreadableConfig (path : Path) (cause : FileError)
  /-- The configuration is no configuration. -/
  | malformedConfig (path : Path) (cause : LoadError)
  /-- A directory could not be walked. -/
  | unwalkable (path : Path) (cause : WalkError)
  /-- There is a configuration already. -/
  | configExists (path : Path)
  /-- The configuration could not be written. -/
  | unwritable (path : Path) (cause : FileError)
  /-- The report could not be written. -/
  | unprintable (cause : Json.WriteError)
deriving DecidableEq, Repr

namespace Failure

/-- What went wrong. -/
def message : Failure → String
  | unreadableConfig path _ => "Failed to read config: " ++ path.shown
  | malformedConfig path _ => "Failed to parse config: " ++ path.shown
  | unwalkable path _ => "Failed to walk " ++ path.shown
  | configExists path =>
    "Configuration file already exists at " ++ path.shown ++ ". Use --force to overwrite."
  | unwritable path _ => "Failed to write " ++ path.shown
  | unprintable cause => cause.message

/-- The wording of what lies behind it, if anything. -/
def cause? : Failure → Option String
  | unreadableConfig _ cause | unwritable _ cause => some cause.message
  | malformedConfig _ cause => some cause.message
  | unwalkable _ cause => some cause.message
  | configExists _ | unprintable _ => none

/-- The lines that report a failure. -/
def lines (f : Failure) : List String :=
  ("Error: " ++ f.message) ::
    match f.cause? with
    | some cause => ["", "Caused by:", "    " ++ cause]
    | none => []

/-- The outcome of a command that gave up. -/
def outcome (f : Failure) : Outcome := { err := f.lines, status := 1 }

end Failure

end NameLint.Command

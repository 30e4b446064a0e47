/-
Configuration documents on disk.

A configuration is a dictionary, written in JSON or in TOML; which of the two is told by
the name of its file.
-/
import NameLint.Config.Validation
import NameLint.File.LoadError
import NameLint.Json.Parser
import NameLint.Toml.Document

namespace NameLint.Config

/-- The formats of configurations. -/
inductive Format where
  | json
  | toml
deriving DecidableEq, Repr, Inhabited

/-- The format of a file by its name; the extension of TOML is in lower case. -/
def Format.ofPath (path : Path) : Format :=
  if Path.extension? path = some "toml" then toml else json

/-- The entries of a document value. -/
def Document.ofJson : Json → Except LoadError Document
  | .dict entries => .ok entries
  | value => .error (.notADict value.shape)

/-- The configuration that a text holds. -/
def Document.parse (format : Format) (source : String) : Except LoadError Document :=
  match format with
  | .json =>
    match Json.parse source with
    | .ok value => ofJson value
    | .error cause => .error (.json cause)
  | .toml =>
    match Toml.parse source with
    | some entries => .ok (Toml.entriesToJson entries)
    | none => .error .toml

/-- The configuration that a file holds. -/
def Document.load {m : Type → Type} [Monad m] (files : FileAccess m) (path : Path) :
    m (Except LoadError Document) := do
  match ← files.readText path with
  | .ok source => return Document.parse (.ofPath path) source
  | .error cause => return .error (.unreadable path cause)

end NameLint.Config

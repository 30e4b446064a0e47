/-
Access to files.

Commands see files only through `FileAccess`: whether a path is a file, what a directory
holds, what a file says, and a way to write one.  They run the same on the files of the
machine and on files kept as a value.
-/
import NameLint.File.Path

namespace NameLint

/-- Why a file could not be read or written. -/
inductive FileError where
  /-- There is no such file. -/
  | notFound
  /-- A component in front of the last is not a directory. -/
  | notDirectory
  /-- The path is a directory. -/
  | isDirectory
  /-- A component of the path is too long. -/
  | nameTooLong
  /-- The path holds a byte that no path may hold. -/
  | badName
  /-- The contents are not text. -/
  | notText
  /-- Any other cause, in the words of the system. -/
  | other (reason : String)
deriving DecidableEq, Repr

/-- The wording of a cause. -/
def FileError.message : FileError → String
  | notFound => "No such file or directory (os error 2)"
  | notDirectory => "Not a directory (os error 20)"
  | isDirectory => "Is a directory (os error 21)"
  | nameTooLong => "File name too long (os error 36)"
  | badName => "file name contained an unexpected NUL byte"
  | notText => "stream did not contain valid UTF-8"
  | other reason => reason

/-- What a path leads to. -/
inductive PathKind where
  /-- A regular file. -/
  | file
  /-- A directory. -/
  | directory
  /-- Something that is neither. -/
  | special
deriving DecidableEq, Repr

/-- The operations on files that commands need. -/
structure FileAccess (m : Type → Type) where
  /-- What the path leads to. -/
  kind : Path → m (Except FileError PathKind)
  /-- The names in a directory, each with what stands there; a link is something special. -/
  list : Path → m (Except FileError (List (Path × PathKind)))
  /-- The bytes of a file. -/
  read : Path → m (Except FileError ByteArray)
  /-- Replaces or makes a file. -/
  write : Path → String → m (Except FileError Unit)
  /-- The names that lead from the root to where the path leads. -/
  canonical : Path → m (Except FileError (List Path))

namespace FileAccess

variable {m : Type → Type} [Monad m]

/-- Bytes as text. -/
def textOf (bytes : ByteArray) : Except FileError String :=
  match String.fromUTF8? bytes with
  | some text => .ok text
  | none => .error .notText

/-- The text of a file. -/
def readText (files : FileAccess m) (path : Path) : m (Except FileError String) := do
  return (← files.read path) >>= textOf

/-- Whether the path leads to a regular file. -/
def isFile (files : FileAccess m) (path : Path) : m Bool := do
  return match ← files.kind path with
    | .ok .file => true
    | _ => false

/-- Whether the path leads to anything. -/
def isPresent (files : FileAccess m) (path : Path) : m Bool := do
  return (← files.kind path).isOk

end FileAccess

end NameLint

/-
Dumps on disk.

A dump may leave out the lines of its files.  They are then read from the files
themselves, whose paths are seen from the directory of the dump; a file that cannot be
read stays without lines.
-/
import NameLint.Dump.Document
import NameLint.File.LoadError

namespace NameLint

/-- The file with its lines, read from under `base` if they are absent and can be read. -/
def SourceFile.withLines {m : Type → Type} [Monad m] (files : FileAccess m) (base : Path)
    (f : SourceFile) : m SourceFile := do
  match f.lines with
  | some _ => return f
  | none =>
    match ← files.readText (Path.join base f.path) with
    | .ok text => return { f with lines := some (Text.linesOf text) }
    | .error _ => return f

namespace CompilationUnit

/-- The unit with the lines of every file, as far as they can be read. -/
def withLines {m : Type → Type} [Monad m] (files : FileAccess m) (base : Path)
    (u : CompilationUnit) : m CompilationUnit := do
  return { u with files := ← u.files.mapM (SourceFile.withLines files base) }

/-- The unit that a dump file holds. -/
def load {m : Type → Type} [Monad m] (files : FileAccess m) (path : Path) :
    m (Except LoadError CompilationUnit) := do
  match ← files.readText path with
  | .error cause => return .error (.unreadable path cause)
  | .ok source =>
    match parse source with
    | .error cause => return .error (.json cause)
    | .ok u => return .ok (← u.withLines files (Path.parent path))

end CompilationUnit

end NameLint

/-
Ignore files along a path.

Every directory on the way to a path may hold ignore files.  Those of the nearest directory
that says anything decide.  A plain ignore file counts everywhere; those of a repository
count only inside of one, and only up to its top directory.
-/
import NameLint.File.Access
import NameLint.Ignore.Rule

namespace NameLint

/-- The ignore files of a directory. -/
structure IgnoreLevel where
  /-- The number of names that lead to the directory. -/
  depth : Nat
  /-- The plain ignore file. -/
  plain : IgnoreFile
  /-- The ignore file of the repository. -/
  shared : IgnoreFile
  /-- The list of exclusions that is kept outside of the repository's files. -/
  excluded : IgnoreFile
  /-- Whether the directory is the top of a repository. -/
  isTop : Bool

namespace IgnoreLevel

variable {m : Type → Type} [Monad m]

/-! ### Loading -/

/-- The ignore file at a path; one that cannot be read is empty. -/
def loadFile (files : FileAccess m) (path : Path) : m IgnoreFile := do
  match ← files.read path with
  | .ok bytes => return .ofBytes bytes
  | .error _ => return {}

/-- The first line of a file. -/
def firstLine? (files : FileAccess m) (path : Path) : m (Option String) := do
  match ← files.readText path with
  | .ok text => return (Text.linesOf text).head?
  | .error _ => return none

/-- Where the data of a repository lies: beside its files, or where a line of a file says. -/
def dataDirectory? (files : FileAccess m) (directory : Path) : m (Option Path) := do
  let entry := Path.join directory ".git"
  if !(← files.isFile entry) then return some entry
  match (← firstLine? files entry).map String.toList with
  | some ('g' :: 'i' :: 't' :: 'd' :: 'i' :: 'r' :: ':' :: ' ' :: place) =>
    let place := Path.ofText (String.ofList place)
    match ← firstLine? files (Path.join place "commondir") with
    | none => return none
    | some shared =>
      return some (if shared.toList.head? = some '.' then Path.join place shared else shared)
  | _ => return none

/-- The names that only the top directory of a repository holds. -/
def repositoryNames : List Path := [".git", ".jj"]

/-- The ignore files of a directory. -/
def load (files : FileAccess m) (directory : Path) (depth : Nat) : m IgnoreLevel := do
  let plain ← loadFile files (Path.join directory ".ignore")
  let shared ← loadFile files (Path.join directory ".gitignore")
  let isTop ← repositoryNames.anyM fun name => files.isPresent (Path.join directory name)
  let excluded ← match ← dataDirectory? files directory with
    | some place => loadFile files (Path.join (Path.join place "info") "exclude")
    | none => pure {}
  return { depth, plain, shared, excluded, isTop }

/-- Whether a line of one of the files is no rule. -/
def flawed (l : IgnoreLevel) : Bool :=
  l.plain.flawed || l.shared.flawed || l.excluded.flawed

/-! ### Verdicts -/

/-- The path as it is seen from the directory. -/
def seen (l : IgnoreLevel) (names : List Path) : List UInt8 :=
  (Path.ofComponents (names.drop l.depth)).bytes

/-- The levels of the repository that a path lies in, up to its top. -/
def repository (levels : List IgnoreLevel) : List IgnoreLevel :=
  if levels.any isTop then
    levels.takeWhile (fun l => !l.isTop) ++ (levels.find? isTop).toList
  else []

/-- What the levels, nearest first, say about the path that the names lead to. -/
def verdict? (levels : List IgnoreLevel) (names : List Path) (isDirectory : Bool) :
    Option Verdict :=
  let said (file : IgnoreLevel → IgnoreFile) (ls : List IgnoreLevel) :=
    ls.findSome? fun l => (file l).verdict? (l.seen names) isDirectory
  said plain levels <|> said shared (repository levels) <|> said excluded (repository levels)

end IgnoreLevel

end NameLint

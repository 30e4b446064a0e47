/-
Walking directories for dumps.

A walk visits everything below a directory that no ignore file passes over; a directory
that is passed over is not entered.  The dumps it finds are in the order of their paths,
component by component.
-/
import NameLint.Ignore.Own

namespace NameLint

/-- Why a directory could not be walked. -/
inductive WalkError where
  /-- A directory could not be read. -/
  | unreadable (path : Path) (cause : FileError)
  /-- An ignore file of a directory above has a line that is no rule. -/
  | flawedIgnoreFile (path : Path)
deriving DecidableEq, Repr

/-- The wording of a cause. -/
def WalkError.message : WalkError → String
  | unreadable path cause => path.shown ++ ": " ++ cause.message
  | flawedIgnoreFile path => path.shown ++ ": invalid glob"

namespace Walk

variable {m : Type → Type} [Monad m]

/-! ### What counts -/

/-- How the names of dumps end. -/
def dumpSuffix : String := ".dump.json"

/-- Whether a file of that name is a dump; names that are no texts are not looked at. -/
def isDumpName (name : Path) : Bool :=
  name.text?.any fun text => dumpSuffix.toList.isSuffixOf text.toList

/-- Whether a path is passed over. -/
def isIgnored (own : OwnIgnores) (levels : List IgnoreLevel) (names : List Path) (path : Path)
    (isDirectory : Bool) : Bool :=
  let said := IgnoreLevel.verdict? levels names isDirectory
  let ownSaid :=
    if levels.any IgnoreLevel.isTop then
      own.file.verdict? (own.seen path) isDirectory
    else none
  (said <|> ownSaid) = some .ignored

/-! ### The walk -/

/-- More levels than any path that can be read has: every one takes two bytes of the path. -/
def depthLimit : Nat := 4096

/-- The dumps below a directory, each as the names that lead to it from the start of the walk.
The names from the root to the start of the walk are `base`; `below` leads on to the directory. -/
def dumpsBelow (files : FileAccess m) (own : OwnIgnores) (base : List Path) (root : Path) :
    Nat → List IgnoreLevel → List Path → ExceptT WalkError m (List (List Path))
  | 0, _, _ => return []
  | fuel + 1, levels, below => do
    let pathOf (names : List Path) :=
      if names.isEmpty then root else Path.join root (Path.ofComponents names)
    let directory := pathOf below
    let entries ← match ← files.list directory with
      | .ok entries => pure entries
      | .error cause => throw (.unreadable directory cause)
    let level ← ExceptT.lift (IgnoreLevel.load files directory (base.length + below.length))
    let levels := level :: levels
    let found ← entries.mapM fun (name, kind) => do
      let names := below ++ [name]
      let path := pathOf names
      if isIgnored own levels (base ++ names) path (kind = .directory) then return []
      else if kind = .directory then dumpsBelow files own base root fuel levels names
      else if isDumpName name && (← files.isFile path) then return [names]
      else return []
    return found.flatten

/-- The levels of the directories above a place, nearest first. -/
def levelsAbove (files : FileAccess m) (place : List Path) :
    ExceptT WalkError m (List IgnoreLevel) :=
  (List.range place.length).foldlM (fun levels n => do
    let directory : Path := "/" ++ Path.ofComponents (place.take n)
    let level ← ExceptT.lift (IgnoreLevel.load files directory n)
    if level.flawed then throw (.flawedIgnoreFile directory)
    return level :: levels) []

/-- Whether one list of names comes before or with another. -/
def namesLe : List Path → List Path → Bool
  | [], _ => true
  | _ :: _, [] => false
  | a :: as, b :: bs => a.bytes < b.bytes || (a = b && namesLe as bs)

/-- The dumps that a walk from a path finds, in order. -/
def dumps (files : FileAccess m) (own : OwnIgnores) (root : Path) :
    m (Except WalkError (List Path)) := do
  if root = "-" then return .ok []
  match ← files.kind root, ← files.canonical root with
  | .error cause, _ => return .error (.unreadable root cause)
  | _, .error cause => return .error (.unreadable root cause)
  | .ok .directory, .ok base =>
    ExceptT.run do
      let above ← levelsAbove files base
      let found ← dumpsBelow files own base root depthLimit above []
      return (found.mergeSort namesLe).map fun names =>
        Path.join root (Path.ofComponents names)
  | .ok _, .ok _ => return .ok []

end Walk

end NameLint

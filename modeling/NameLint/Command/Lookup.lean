/-
Finding the configuration.

The path on the command line is taken as it is.  Without it, the first of the project's
documents that is a file is taken, or else the first of the user's; without any of them the
configuration is empty.
-/
import NameLint.Command.Outcome
import NameLint.Config.Document

namespace NameLint.Command

/-- What surrounds a command. -/
structure Surroundings where
  /-- The directory of the user's configuration, if it is given. -/
  configDirectory : Option Path := none
  /-- The directories of the user. -/
  user : UserDirectories := {}
deriving DecidableEq, Repr

/-- Where a configuration comes from. -/
inductive Origin where
  /-- The command line. -/
  | option
  /-- The project. -/
  | project
  /-- The user. -/
  | user
deriving DecidableEq, Repr

/-- The name of an origin. -/
def Origin.label : Origin → String
  | option => "--config"
  | project => "project"
  | user => "global"

namespace Lookup

variable {m : Type → Type} [Monad m]

/-! ### Places -/

/-- The names of a project's configuration. -/
def projectNames : List Path := ["namingng.json", ".namingng.json", "namingng.toml"]

/-- The names of a user's configuration. -/
def userNames : List Path := ["config.json", "config.toml"]

/-- The directory of a user's configuration. -/
def userDirectory? (s : Surroundings) : Option Path :=
  match s.configDirectory with
  | some directory => some directory
  | none => s.user.home.map fun home => Path.join home ".namingng"

/-- The places to look in, in order. -/
def candidates (s : Surroundings) : List (Origin × Path) :=
  projectNames.map (fun name => (Origin.project, Path.join "." name)) ++
    (userDirectory? s).toList.flatMap fun directory =>
      userNames.map fun name => (Origin.user, Path.join directory name)

/-- The first of the places where a file is. -/
def firstFile? (files : FileAccess m) :
    List (Origin × Path) → m (Option (Origin × Path))
  | [] => return none
  | c :: cs => do if ← files.isFile c.2 then return some c else firstFile? files cs

/-- Where the configuration is. -/
def locate (files : FileAccess m) (s : Surroundings) (given : Option Path) :
    m (Option (Origin × Path)) :=
  match given with
  | some path => return some (.option, path)
  | none => firstFile? files (candidates s)

/-! ### Loading -/

/-- The format of a file by its name; the extension of TOML may be in either case. -/
def formatOf (path : Path) : Config.Format :=
  if (path.extension?.bind Path.text?).map String.toLower = some "toml" then .toml else .json

/-- The configuration at a path. -/
def read (files : FileAccess m) (path : Path) : m (Except Failure Config.Document) := do
  match ← files.readText path with
  | .error cause => return .error (.unreadableConfig path cause)
  | .ok text =>
    match Config.Document.parse (formatOf path) text with
    | .error cause => return .error (.malformedConfig path cause)
    | .ok document => return .ok document

/-- A configuration, and where it comes from. -/
structure Found where
  /-- Where it comes from; absent if there is none. -/
  source : Option (Origin × Path)
  /-- The configuration. -/
  document : Config.Document

/-- The line that names the source. -/
def Found.line (f : Found) : String :=
  match f.source with
  | none => "Config: none (nothing will be checked)"
  | some (origin, path) => "Config: " ++ path.shown ++ " (" ++ origin.label ++ ")"

/-- Finds and loads the configuration. -/
def load (files : FileAccess m) (s : Surroundings) (given : Option Path) :
    m (Except Failure Found) := do
  match ← locate files s given with
  | none => return .ok ⟨none, []⟩
  | some (origin, path) =>
    return (← read files path).map fun document => ⟨some (origin, path), document⟩

end Lookup

end NameLint.Command

/-
The check of dumps.
-/
import NameLint.Command.CheckReport
import NameLint.Command.Lookup

namespace NameLint.Command.Check

variable {m : Type → Type} [Monad m]

/-- The dumps that a path stands for: a file stands for itself, a directory for the dumps below
it. -/
def dumpsAt (files : FileAccess m) (own : OwnIgnores) (path : Path) :
    m (Except Failure (List Path)) := do
  if ← files.isFile path then return .ok [path]
  match ← Walk.dumps files own path with
  | .ok dumps => return .ok dumps
  | .error cause => return .error (.unwalkable path cause)

/-- The dumps that paths stand for, path by path. -/
def discover (files : FileAccess m) (own : OwnIgnores) :
    List Path → m (Except Failure (List Path))
  | [] => return .ok []
  | path :: rest => do
    match ← dumpsAt files own path with
    | .error f => return .error f
    | .ok dumps => return (← discover files own rest).map (dumps ++ ·)

/-- What a document and rules find in dumps. -/
def examine (files : FileAccess m) (document : Config.Document) (rules : List Rule)
    (dumps : List Path) : m CheckReport := do
  let v := Config.validate document
  let results ← dumps.mapM fun dump => do
    return (⟨dump, ← analyzeDump files rules v.settings dump⟩ : DumpResult)
  return ⟨v.diagnostics, results⟩

/-- Runs the check. -/
def run (files : FileAccess m) (s : Surroundings) (config : Option Path) (o : CheckOptions) :
    m Outcome := do
  match ← Lookup.load files s config with
  | .error f => return f.outcome
  | .ok found =>
    let own ← OwnIgnores.load files s.user
    match ← discover files own o.paths with
    | .error f => return f.outcome
    | .ok dumps =>
      return (← examine files found.document o.preset.rules dumps).outcome o.format o.failOn

end NameLint.Command.Check

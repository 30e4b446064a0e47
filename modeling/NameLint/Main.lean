/-
The command line, on the files of the machine.

Paths are passed to the system as texts.  A path that is no text cannot be, so to this program
there is no file at it.
-/
import NameLint.Command.Run

namespace NameLint.Main

open NameLint.Command

/-! ### Files of the machine -/

/-- The cause behind an error of the system. -/
def causeOf : IO.Error → FileError
  | .noFileOrDirectory .. => .notFound
  | .inappropriateType _ code details =>
    if code = 20 then .notDirectory else if code = 21 then .isDirectory else .other details
  | e => .other (toString e)

/-- An action on a path, with its errors as causes. -/
def attempt {α : Type} (path : Path) (action : String → IO α) : IO (Except FileError α) := do
  match path.text? with
  | none => return .error .notFound
  | some text =>
    try return .ok (← action text)
    catch e => return .error (causeOf e)

/-- What the system says stands at a place. -/
def kindOf (type : IO.FS.FileType) : PathKind :=
  match type with
  | .dir => .directory
  | .file => .file
  | .symlink | .other => .special

/-- Access to the files of the machine. -/
def access : FileAccess IO where
  kind path := attempt path fun path => do
    return kindOf (← (← IO.FS.realPath path).metadata).type
  list path := attempt path fun path => do
    let entries ← (← IO.FS.realPath path).readDir
    entries.toList.mapM fun entry => do
      return (entry.fileName, kindOf (← entry.path.symlinkMetadata).type)
  read path := attempt path fun path => IO.FS.readBinFile path
  write path text := attempt path fun path => IO.FS.writeFile path text
  canonical path := attempt path fun path => do
    return Path.components (toString (← IO.FS.realPath path))

/-- What the environment of the process says. -/
def surroundings : IO Surroundings := do
  let directory (name : String) : IO (Option Path) := do
    return (← IO.getEnv name).map Path.ofText
  return {
    configDirectory := ← directory "NAMINGNG_CONFIG_DIR"
    user := {
      home := ← directory "HOME"
      settings := (← directory "XDG_CONFIG_HOME").filter (· ≠ "") } }

end NameLint.Main

/-- Runs the command line of the process. -/
def main (arguments : List String) : IO UInt32 := do
  let outcome ← NameLint.Command.run NameLint.Main.access (← NameLint.Main.surroundings)
    (arguments.map NameLint.Path.ofText)
  for line in outcome.err do IO.eprintln line
  for line in outcome.out do IO.println line
  return outcome.status.toUInt32

/-
Files kept as a value.

A tree holds what stands at each place below the root, and the directory that relative
paths start from.  A path is followed piece by piece, and every piece has to start from a
directory: this gives the same causes of failure, in the same order, as following it on a
disk.
-/
import NameLint.File.Access

namespace NameLint

/-- What stands at a place. -/
inductive FileNode where
  /-- A directory. -/
  | directory
  /-- A regular file and its bytes. -/
  | file (bytes : ByteArray)
  /-- A device that holds nothing and forgets what it is given. -/
  | sink

/-- What a node is. -/
def FileNode.kind : FileNode → PathKind
  | directory => .directory
  | file _ => .file
  | sink => .special

/-- Files and directories below a root. -/
structure FileTree where
  /-- What stands at each place; a place is given by the names that lead to it. -/
  nodes : List (List Path × FileNode) := []
  /-- The place that relative paths start from. -/
  current : List Path := []

namespace FileTree

/-! ### Following a path -/

/-- The most bytes that a name may have. -/
def nameLimit : Nat := 255

/-- The number of bytes from which on a path is too long. -/
def pathLimit : Nat := 4096

/-- What stands at a place; the root is always a directory. -/
def node? (t : FileTree) (place : List Path) : Option FileNode :=
  if place.isEmpty then some .directory else t.nodes.lookup place

/-- The place that the pieces of a path lead to.  Nothing need stand at the last one. -/
def follow (t : FileTree) : List Path → List Path → Except FileError (List Path)
  | place, [] => .ok place
  | place, p :: ps =>
    match t.node? place with
    | none => .error .notFound
    | some .directory =>
      if p = "" ∨ p = "." then t.follow place ps
      else if p = ".." then t.follow place.dropLast ps
      else if nameLimit < p.bytes.length then .error .nameTooLong
      else t.follow (place ++ [p]) ps
    | some _ => .error .notDirectory

/-- The place that a path leads to. -/
def place (t : FileTree) (path : Path) : Except FileError (List Path) :=
  if path = "" then .error .notFound
  else if path.bytes.contains 0 then .error .badName
  else if pathLimit ≤ path.bytes.length then .error .nameTooLong
  else
    t.follow (if path.isAbsolute then [] else t.current) ((Path.pieces path.bytes).map Path.mk)

/-- The node that a path leads to. -/
def find (t : FileTree) (path : Path) : Except FileError FileNode := do
  match t.node? (← t.place path) with
  | some node => return node
  | none => throw .notFound

/-! ### Operations -/

/-- The tree with a node at a place. -/
def put (t : FileTree) (place : List Path) (node : FileNode) : FileTree :=
  { t with nodes := (place, node) :: t.nodes.filter fun n => n.1 ≠ place }

/-- The names in the directory at a place, each with what stands there. -/
def names (t : FileTree) (place : List Path) : List (Path × PathKind) :=
  t.nodes.filterMap fun (p, node) =>
    match p.getLast? with
    | some name => if p.dropLast = place then some (name, node.kind) else none
    | none => none

/-- The names in the directory that a path leads to. -/
def list (t : FileTree) (path : Path) : Except FileError (List (Path × PathKind)) := do
  match ← t.find path with
  | .directory => return t.names (← t.place path)
  | _ => throw .notDirectory

/-- The bytes of the file that a path leads to. -/
def read (t : FileTree) (path : Path) : Except FileError ByteArray := do
  match ← t.find path with
  | .file bytes => return bytes
  | .sink => return .empty
  | .directory => throw .isDirectory

/-- The tree after a text is written to a file. -/
def write (t : FileTree) (path : Path) (text : String) : Except FileError FileTree := do
  let place ← t.place path
  match t.node? place with
  | some .directory => throw .isDirectory
  | some .sink => return t
  | some (.file _) | none => return t.put place (.file text.toUTF8)

/-- The place that a path leads to, if anything stands there. -/
def canonical (t : FileTree) (path : Path) : Except FileError (List Path) := do
  let _ ← t.find path
  t.place path

/-- Access to the files of a tree that is the state. -/
def access : FileAccess (StateM FileTree) where
  kind path := return ((← get).find path).map FileNode.kind
  list path := return (← get).list path
  read path := return (← get).read path
  write path text := do
    match (← get).write path text with
    | .ok t => set t; return .ok ()
    | .error cause => return .error cause
  canonical path := return (← get).canonical path

end FileTree

end NameLint

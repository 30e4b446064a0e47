/-
TOML documents.

A document is a sequence of statements: assignments, and headers that say which table the
assignments after them go to.  Statements are read one by one and added to a draft of the
document, whose current table goes to its place when the next header opens another.
-/
import NameLint.Toml.Item

namespace NameLint.Toml

/-! ### Statements -/

/-- A statement of a document. -/
inductive Statement where
  /-- An assignment to a key, which may be dotted. -/
  | assignment (path : List String) (key : String) (v : Value)
  /-- The header of a table. -/
  | table (path : List String) (key : String)
  /-- The header of a further table in a list of tables. -/
  | element (path : List String) (key : String)
deriving Repr

/-- Reads a header after its opening brackets. -/
def header (closing : List Char) (make : List String → String → Statement) : Read Statement := do
  let (path, last) ← key
  chars closing
  lineRest
  return make path last

/-- Reads an assignment. -/
def assignment : Read Statement := do
  let (path, last) ← key
  char '='
  blanks
  let v ← value (depthLimit - 1)
  lineRest
  return .assignment path last v

/-- Reads a statement, none if there is only a comment or the end of a line. -/
def statement? : Read (Option Statement) := fun cs =>
  match cs with
  | '#' :: _ => (do lineRest; return none) cs
  | '\n' :: _ | '\r' :: _ => (do lineEnd; return none) cs
  | '[' :: '[' :: rest => (some <$> header [']', ']'] .element) rest
  | '[' :: rest => (some <$> header [']'] .table) rest
  | _ => (some <$> assignment) cs

/-- Reads the statements of a document; at most `fuel` lines of them. -/
def statementsFrom : Nat → List Char → Option (List Statement)
  | 0, _ => none
  | fuel + 1, cs =>
    match skipBlanks cs with
    | [] => some []
    | cs => do
      let (s, rest) ← statement? cs
      return s.toList ++ (← statementsFrom fuel rest)

/-- Reads the statements of a document, after a byte order mark. -/
def statements (cs : List Char) : Option (List Statement) :=
  let cs := if cs.head? = some '\uFEFF' then cs.tail else cs
  statementsFrom (cs.length + 1) cs

/-! ### Drafts -/

/-- Where the current table goes. -/
inductive Place where
  /-- It is the top of the document. -/
  | top
  /-- It is a table of its own. -/
  | table (path : List String) (key : String)
  /-- It is the next of a list of tables. -/
  | element (path : List String) (key : String)
deriving Repr

/-- A document under construction. -/
structure Draft where
  /-- The document without the current table. -/
  root : Entries := []
  /-- Where the current table goes. -/
  place : Place := .top
  /-- The entries of the current table. -/
  current : Entries := []
deriving Repr

namespace Draft

/-- Adds a table to the list of tables under a key. -/
def pushElement (key : String) (element : Entries) (_ : Origin) (entries : Entries) :
    Option (Entries × Unit) :=
  match entries.lookup key with
  | none => some (entries ++ [(key, .tables [element])], ())
  | some (.tables elements) => some (putEntry key (.tables (elements ++ [element])) entries, ())
  | some _ => none

/-- Puts a table at the end of the entries. -/
def pushTable (key : String) (table : Entries) (_ : Origin) (entries : Entries) :
    Option (Entries × Unit) :=
  some (entries ++ [(key, .table .header table)], ())

/-- Takes out the table that a header opens: one passed on the way to another, or none at all. -/
def takeTable (key : String) (_ : Origin) (entries : Entries) : Option (Entries × Entries) :=
  match entries.lookup key with
  | none => some (entries, [])
  | some (.table .passed inner) => some (entries.filter fun e => e.1 ≠ key, inner)
  | some _ => none

/-- The document with the current table in its place. -/
def closed (d : Draft) : Option Entries :=
  match d.place with
  | .top => some d.current
  | .table path key => (within .passed (pushTable key d.current) path .header d.root).map Prod.fst
  | .element path key =>
    (within .passed (pushElement key d.current) path .header d.root).map Prod.fst

/-- The draft with one more statement. -/
def add (d : Draft) : Statement → Option Draft
  | .assignment path key v => do
    return { d with current := ← assigned path key (.value v) d.current }
  | .table path key => do
    let (root, current) ← within .passed (takeTable key) path .header (← d.closed)
    return ⟨root, .table path key, current⟩
  | .element path key => do
    return ⟨← d.closed, .element path key, []⟩

end Draft

/-- The table of a TOML document, if the text is one. -/
def parse (source : String) : Option (List (String × Value)) := do
  let draft ← (← statements source.toList).foldlM Draft.add {}
  return entryValues (← draft.closed)

end NameLint.Toml

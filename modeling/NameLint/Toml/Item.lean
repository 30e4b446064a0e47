/-
Reading keys and values of a TOML document.

Arrays may run over several lines and end in a comma; inline tables may do neither.
Arrays and inline tables nest less than 80 deep, and a dotted key has less than 80 parts.
-/
import NameLint.Toml.DateTime
import NameLint.Toml.Table
import NameLint.Toml.Text

namespace NameLint.Toml

/-- The depth that nesting has to stay below. -/
def depthLimit : Nat := 80

/-! ### Keys -/

/-- Whether the character may stand in a key without quotes. -/
def isKeyChar (c : Char) : Bool :=
  c.isAlphanum || c = '_' || c = '-'

/-- Reads one part of a key. -/
def simpleKey : Read String
  | '"' :: rest => lineText '"' rest
  | '\'' :: rest => lineText '\'' rest
  | cs =>
    let name := cs.takeWhile isKeyChar
    if name.isEmpty then none else some (String.ofList name, cs.dropWhile isKeyChar)

/-- Reads the parts of a key, with blanks around each; at most `fuel` parts. -/
def keyParts : Nat → Read (List String)
  | 0 => failure
  | fuel + 1 => do
    blanks
    let part ← simpleKey
    blanks
    fun cs =>
      match cs with
      | '.' :: rest => (do return part :: (← keyParts fuel)) rest
      | _ => some ([part], cs)

/-- Reads a key: the parts that lead to the table, and the last part. -/
def key : Read (List String × String) := do
  let parts ← keyParts (depthLimit - 1)
  match parts.getLast? with
  | some last => return (parts.dropLast, last)
  | none => failure

/-! ### Values -/

/-- Reads the items of an array up to the closing bracket; at most `fuel` of them. -/
def arrayItems (read : Read Value) : Nat → Read (List Value)
  | 0 => failure
  | fuel + 1 => do
    gap
    fun cs =>
      match cs with
      | ']' :: rest => some ([], rest)
      | _ =>
        (do
          let v ← read
          gap
          fun cs =>
            match cs with
            | ',' :: rest => (do return v :: (← arrayItems read fuel)) rest
            | ']' :: rest => some ([v], rest)
            | _ => none) cs

/-- Reads a key, an equals sign and a value into an inline table. -/
def inlineEntry (read : Read Value) (entries : Entries) : Read Entries := do
  let (path, last) ← key
  char '='
  blanks
  let v ← read
  blanks
  assigned path last (.value v) entries

/-- Reads the entries of an inline table up to the closing bracket; at most `fuel` of them. -/
def inlineEntries (read : Read Value) : Nat → Entries → Read Entries
  | 0, _ => failure
  | fuel + 1, entries => do
    let entries ← inlineEntry read entries
    fun cs =>
      match cs with
      | ',' :: rest => inlineEntries read fuel entries rest
      | '\x7d' :: rest => some (entries, rest)
      | _ => none

/-- Reads an inline table after its opening bracket. -/
def inlineTable (read : Read Value) : Read Value := fun cs =>
  match skipBlanks cs with
  | '\x7d' :: rest => some (.table [], rest)
  | _ =>
    ((fun entries => .table (entryValues entries)) <$> inlineEntries read (cs.length + 1) []) cs

/-- Reads a value in which arrays and inline tables nest at most `depth` deep. -/
def value (depth : Nat) : Read Value := fun cs =>
  match cs with
  | [] => none
  | c :: rest =>
    if c = '"' ∨ c = '\'' then (Value.string <$> text c) rest
    else if c = '[' then
      match depth with
      | 0 => none
      | depth + 1 => (Value.array <$> arrayItems (value depth) (rest.length + 1)) rest
    else if c = '\x7b' then
      match depth with
      | 0 => none
      | depth + 1 => inlineTable (value depth) rest
    else if c = 't' then (do chars ['r', 'u', 'e']; return Value.boolean true) rest
    else if c = 'f' then (do chars ['a', 'l', 's', 'e']; return Value.boolean false) rest
    else numberOrTime cs

end NameLint.Toml

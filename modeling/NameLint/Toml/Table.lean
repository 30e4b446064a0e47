/-
Tables under construction.

A table of a TOML document grows from statements that are far apart, and how it came to be
decides which later statements may add to it.  A table opened by its own header is
finished but for the assignments below that header; one that only lies on the way to
another header may still get a header of its own; one made by a dotted key may be
extended by dotted keys alone.
-/
import NameLint.Toml.Value

namespace NameLint.Toml

/-- How a table came to be. -/
inductive Origin where
  /-- It has a header, or is the top of the document. -/
  | header
  /-- It lies on the way to a header. -/
  | passed
  /-- It lies on the way of a dotted key. -/
  | dotted
deriving DecidableEq, Repr

/-- What stands under a key of a table under construction. -/
inductive Item where
  /-- A value, to which nothing can be added. -/
  | value (v : Value)
  /-- A table. -/
  | table (origin : Origin) (entries : List (String × Item))
  /-- A list of tables with headers, of which the last may grow. -/
  | tables (elements : List (List (String × Item)))
deriving Repr

/-- The entries of a table under construction. -/
abbrev Entries := List (String × Item)

mutual

/-- The value an item stands for. -/
def Item.toValue : Item → Value
  | .value v => v
  | .table _ entries => .table (entryValues entries)
  | .tables elements => .array (elementValues elements)

/-- The values under the keys of a table. -/
def entryValues : List (String × Item) → List (String × Value)
  | [] => []
  | (key, item) :: rest => (key, item.toValue) :: entryValues rest

/-- The values of a list of tables. -/
def elementValues : List (List (String × Item)) → List Value
  | [] => []
  | entries :: rest => .table (entryValues entries) :: elementValues rest

end

/-- Whether the key is taken. -/
def Entries.has (entries : Entries) (key : String) : Bool :=
  (entries.lookup key).isSome

/--
Edits the table at the end of a path.  Tables missing on the way are made, with the given
origin; in a list of tables the way goes through the last one.  A dotted key may not pass
a table that has a header.
-/
def within {α : Type} (made : Origin) (edit : Origin → Entries → Option (Entries × α)) :
    List String → Origin → Entries → Option (Entries × α)
  | [], here, entries => edit here entries
  | key :: path, _, entries =>
    match entries.lookup key with
    | none => do
      let (inner, a) ← within made edit path made []
      return (entries ++ [(key, .table made inner)], a)
    | some (.value _) => none
    | some (.table origin inner) =>
      if made = .dotted ∧ origin = .header then none
      else do
        let (inner, a) ← within made edit path origin inner
        return (putEntry key (.table origin inner) entries, a)
    | some (.tables elements) =>
      match elements.getLast? with
      | none => none
      | some last => do
        let (last, a) ← within made edit path .header last
        return (putEntry key (.tables (elements.dropLast ++ [last])) entries, a)

/--
Puts an item under a key that is not taken.  A plain key adds to a table that is not made
of dotted keys, and a dotted key to one that is.
-/
def assign (isDotted : Bool) (key : String) (item : Item) (here : Origin) (entries : Entries) :
    Option (Entries × Unit) :=
  if isDotted = (here = .dotted : Bool) ∧ ¬ entries.has key then some (entries ++ [(key, item)], ())
  else none

/-- The entries with an item under a path, seen from a table with a header. -/
def assigned (path : List String) (key : String) (item : Item) (entries : Entries) :
    Option Entries :=
  (within .dotted (assign (!path.isEmpty) key item) path .header entries).map Prod.fst

end NameLint.Toml

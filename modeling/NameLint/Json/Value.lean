/-
Document values.

A document is a value of the JSON data model.  Dictionaries keep their keys in the order
of first appearance, and a key that appears again only replaces the value.  Whole numbers
are kept exactly; every other number is a double.
-/
import NameLint.Decimal.Binary64

namespace NameLint

/-- A value of a document. -/
inductive Json where
  /-- The absent value. -/
  | null
  /-- A truth value. -/
  | bool (b : Bool)
  /-- A whole number that fits in 64 bits, signed or unsigned. -/
  | int (i : Int)
  /-- Any other number. -/
  | float (x : Binary64)
  /-- A text. -/
  | str (s : String)
  /-- A list of values. -/
  | list (items : List Json)
  /-- Values under distinct keys, in the order in which the keys first appeared. -/
  | dict (entries : List (String × Json))
deriving Repr, Inhabited

namespace Json

/-- The name of a value's shape in diagnostics. -/
def shape : Json → String
  | null => "null"
  | bool _ => "bool"
  | int _ => "int"
  | float _ => "float"
  | str _ => "str"
  | list _ => "list"
  | dict _ => "dict"

end Json

/-- The entries with the value put under the key: in its place if the key is there, else at the
end. -/
def putEntry {α : Type} (key : String) (value : α) : List (String × α) → List (String × α)
  | [] => [(key, value)]
  | (k, v) :: rest => if k = key then (k, value) :: rest else (k, v) :: putEntry key value rest

/-- The entries in order, a later value for a key taking the place of an earlier one. -/
def entriesOf {α : Type} (pairs : List (String × α)) : List (String × α) :=
  pairs.foldl (fun entries p => putEntry p.1 p.2 entries) []

end NameLint

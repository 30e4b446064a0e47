/-
Values of a TOML document.

They are richer than document values: dates and times have a type of their own, and a
float need not be finite.  `toJson` fits them into document values.
-/
import NameLint.Json.Value

namespace NameLint.Toml

/-- A value of a TOML document. -/
inductive Value where
  /-- A text. -/
  | string (s : String)
  /-- A whole number that fits in 64 bits with a sign. -/
  | integer (i : Int)
  /-- A finite float. -/
  | float (x : Binary64)
  /-- A float that is infinite or not a number. -/
  | nonFinite
  /-- A truth value. -/
  | boolean (b : Bool)
  /-- A date, a time or both, in normal form. -/
  | datetime (text : String)
  /-- A list of values. -/
  | array (items : List Value)
  /-- Values under distinct keys, in the order in which the keys first appeared. -/
  | table (entries : List (String × Value))
deriving Repr, Inhabited

/-- The key under which the text of a date or time stands in a document value. -/
def datetimeKey : String := "$__toml_private_datetime"

mutual

/-- The document value: a date is a dictionary with its text, a float that is not finite is null. -/
def Value.toJson : Value → Json
  | .string s => .str s
  | .integer i => .int i
  | .float x => .float x
  | .nonFinite => .null
  | .boolean b => .bool b
  | .datetime text => .dict [(datetimeKey, .str text)]
  | .array items => .list (itemsToJson items)
  | .table entries => .dict (entriesToJson entries)

/-- The document values of a list. -/
def itemsToJson : List Value → List Json
  | [] => []
  | v :: rest => v.toJson :: itemsToJson rest

/-- The document values of a table. -/
def entriesToJson : List (String × Value) → List (String × Json)
  | [] => []
  | (key, v) :: rest => (key, v.toJson) :: entriesToJson rest

end

end NameLint.Toml

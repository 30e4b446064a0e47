/-
Prefix tables: which prefix the names of a type must carry.

Types are compared as they are spelled; whoever fills a table or asks it brings them into
canonical spelling first.
-/
import NameLint.Json.Value

namespace NameLint

/-- The prefix that each type asks for. -/
structure PrefixTable where
  /-- The types with their prefixes, no type twice. -/
  entries : List (String × String) := []
deriving DecidableEq, Repr, Inhabited

namespace PrefixTable

/-- The table with a prefix for a type in place of the one it had. -/
def insert (t : PrefixTable) (type required : String) : PrefixTable :=
  ⟨putEntry type required t.entries⟩

/-- The table of the given pairs, a later pair for a type taking the place of an earlier one. -/
def ofList (pairs : List (String × String)) : PrefixTable :=
  ⟨entriesOf pairs⟩

/-- The number of types. -/
def size (t : PrefixTable) : Nat := t.entries.length

/-- Whether there are no types. -/
def isEmpty (t : PrefixTable) : Bool := t.entries.isEmpty

/-- The prefix that a type asks for. -/
def find? (t : PrefixTable) (type : String) : Option String :=
  t.entries.lookup type

/-- The prefix that a name of that type lacks. -/
def missing? (t : PrefixTable) (type name : String) : Option String :=
  (t.find? type).filter fun required => !required.toList.isPrefixOf name.toList

end PrefixTable

end NameLint

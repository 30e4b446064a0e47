/-
Reading with one list of defects.

A defect does not stop the reading of a configuration, so that one does not hide another.
All readers add what is wrong to one list, which is handed from reader to reader.  A reader
that puts something together from items looks at the length of the list before it begins
and when it is done: what it has is good if the list has not grown.
-/
import NameLint.Config.Diagnostic
import NameLint.Json.Writer

namespace NameLint

/-- A step that may add to the list of defects. -/
abbrev Reporting := StateM (List Diagnostic)

namespace Reporting

/-- Adds a defect to the list. -/
def report (d : Diagnostic) : Reporting Unit :=
  modify (· ++ [d])

/-- Adds a defect to the list and gives nothing. -/
def refuse {α : Type} (d : Diagnostic) : Reporting (Option α) := do
  report d
  return none

/-- Goes on with a value, if there is one. -/
def andThen {α β : Type} (m : Reporting (Option α)) (k : α → Reporting (Option β)) :
    Reporting (Option β) := do
  match ← m with
  | none => return none
  | some a => k a

/-- The number of defects so far. -/
def count : Reporting Nat := return (← get).length

/-- What has been put together since the list had `before` defects; nothing if it has more now. -/
def unlessGrown {α : Type} (before : Nat) (a : α) : Reporting (Option α) := do
  return if (← count) = before then some a else none

/-! ### Single values -/

/-- A truth value. -/
def expectBool (key : String) : Json → Reporting (Option Bool)
  | .bool b => return some b
  | value => refuse (.wrongShape key "bool" value.shape)

/-- A text. -/
def expectText (key : String) : Json → Reporting (Option String)
  | .str s => return some s
  | value => refuse (.wrongShape key "str" value.shape)

/-- A number of lines. -/
def expectLineCount (key : String) : Json → Reporting (Option Nat)
  | .int (.ofNat n) => return some n
  | .int (.negSucc _) => refuse (.wrongShape key "int >= 0" "negative int")
  | value => refuse (.wrongShape key "int >= 0" value.shape)

end Reporting

end NameLint

/-
Reading naming rules and prefix tables of a configuration.

A rule is one pattern, a list of patterns that names match, or a dictionary from patterns
to outcomes.  An outcome says whether a name that matches is reported, alone or with a
message.
-/
import NameLint.Config.Reporting
import NameLint.Config.Settings
import NameLint.Dump.CompilationUnit

namespace NameLint.Config

open Reporting

/-! ### Naming rules -/

/-- A pattern under a key. -/
def resolvePattern (key raw : String) : Reporting (Option NamePattern) :=
  match NamePattern.compile raw with
  | .ok p => return some p
  | .error cause => refuse (.invalidRegex key raw cause)

/-- The entry that names match a pattern. -/
def resolveRequired (key raw : String) : Reporting (Option PatternEntry) := do
  return (← resolvePattern key raw).map fun p => { pattern := p }

/-- An item of a list of patterns. -/
def resolveListItem (key : String) : Json → Reporting (Option PatternEntry)
  | .str raw => resolveRequired key raw
  | item => refuse (.itemShape key item.compact "str" item.shape)

/-- Whether a matching name is reported, and the message that goes with it. -/
def outcome? : Json → Option (Bool × Option String)
  | .bool b => some (b, none)
  | .list [.bool b, .str message] => some (b, some message)
  | _ => none

/-- An entry of a dictionary from patterns to outcomes. -/
def resolveOutcome (key : String) (entry : String × Json) : Reporting (Option PatternEntry) :=
  match outcome? entry.2 with
  | none => refuse (.invalidOutcome key entry.1)
  | some (reported, message) => do
    return (← resolvePattern key entry.1).map fun p => ⟨p, !reported, message⟩

/-- The rule of all items, if none of them has a defect. -/
def resolveItems {α : Type} (resolve : α → Reporting (Option PatternEntry)) (items : List α) :
    Reporting (Option RuleSpec) := do
  let before ← count
  let entries ← items.mapM resolve
  unlessGrown before ⟨entries.filterMap id⟩

/-- The naming rule that a value stands for. -/
def resolveRule (key : String) : Json → Reporting (Option RuleSpec)
  | .str raw => resolveItems (resolveRequired key) [raw]
  | .list items => resolveItems (resolveListItem key) items
  | .dict entries => resolveItems (resolveOutcome key) entries
  | value => refuse (.wrongShape key "str, list or dict" value.shape)

/-! ### Prefix tables -/

/-- The table with an entry, its type in canonical spelling; the same table if it has a defect. -/
def insertPrefix (key : String) (table : PrefixTable) (entry : String × Json) :
    Reporting PrefixTable :=
  match entry.2 with
  | .str required => return table.insert (TypeSpelling.canonical entry.1) required
  | value => do
    report (.itemShape key entry.1 "str" value.shape)
    return table

/-- The prefix table that a value stands for. -/
def resolvePrefixes (key : String) : Json → Reporting (Option PrefixTable)
  | .dict entries => do
    let before ← count
    let table ← entries.foldlM (insertPrefix key) {}
    unlessGrown before table
  | value => refuse (.wrongShape key "dict" value.shape)

end NameLint.Config

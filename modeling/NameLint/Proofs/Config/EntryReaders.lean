/-
Entries read on their own.

`validate` hands one list of defects and one state of the settings through all entries.  Here
each entry is read with neither: a reader gives the value that part of a configuration stands
for, or all that is wrong with it, and `gather` does so for the items of a list.  Proofs about
what a configuration means are about these readers; that `validate` gives what they give is
shown in `Proofs.Config.OneList`.
-/
import NameLint.Config.Validation

namespace NameLint

/-! ### Checked values -/

/-- A value of a configuration, or what is wrong with it. -/
abbrev Checked := Except (List Diagnostic)

namespace Checked

/-- What is wrong. -/
def diagnostics {α : Type} : Checked α → List Diagnostic
  | .ok _ => []
  | .error ds => ds

/-- One defect. -/
def defect {α : Type} (d : Diagnostic) : Checked α := .error [d]

@[simp]
theorem diagnostics_ok {α : Type} (a : α) : diagnostics (.ok a) = [] := rfl

@[simp]
theorem diagnostics_pure {α : Type} (a : α) : diagnostics (pure a) = [] := rfl

@[simp]
theorem diagnostics_error {α : Type} (ds : List Diagnostic) :
    diagnostics (.error ds : Checked α) = ds := rfl

@[simp]
theorem diagnostics_defect {α : Type} (d : Diagnostic) :
    (defect d : Checked α).diagnostics = [d] := rfl

/-- The values of all items, or what is wrong with any of them, in order. -/
def gather {α : Type} : List (Checked α) → Checked (List α)
  | [] => .ok []
  | .ok a :: rest =>
    match gather rest with
    | .ok as => .ok (a :: as)
    | .error ds => .error ds
  | .error ds :: rest => .error (ds ++ (gather rest).diagnostics)

/-- A value of the wrong shape. -/
def wrongShape {α : Type} (key expected : String) (value : Json) : Checked α :=
  defect (.wrongShape key expected value.shape)

/-- A truth value. -/
def truth (key : String) : Json → Checked Bool
  | .bool b => .ok b
  | value => wrongShape key "bool" value

/-- A text. -/
def text (key : String) : Json → Checked String
  | .str s => .ok s
  | value => wrongShape key "str" value

/-- A number of lines. -/
def lineCount (key : String) : Json → Checked Nat
  | .int (.ofNat n) => .ok n
  | .int (.negSucc _) => defect (.wrongShape key "int >= 0" "negative int")
  | value => wrongShape key "int >= 0" value

end Checked

namespace Config

/-! ### Naming rules -/

/-- A pattern under a key. -/
def readPattern (key raw : String) : Checked NamePattern :=
  match NamePattern.compile raw with
  | .ok p => .ok p
  | .error cause => .defect (.invalidRegex key raw cause)

/-- The entry that names match a pattern. -/
def readRequired (key raw : String) : Checked PatternEntry := do
  return { pattern := ← readPattern key raw }

/-- An item of a list of patterns. -/
def readListItem (key : String) : Json → Checked PatternEntry
  | .str raw => readRequired key raw
  | item => .defect (.itemShape key item.compact "str" item.shape)

/-- An entry of a dictionary from patterns to outcomes. -/
def readOutcome (key : String) (entry : String × Json) : Checked PatternEntry :=
  match outcome? entry.2 with
  | none => .defect (.invalidOutcome key entry.1)
  | some (reported, message) => do
    return ⟨← readPattern key entry.1, !reported, message⟩

/-- The naming rule that a value stands for. -/
def readRule (key : String) : Json → Checked RuleSpec
  | .str raw => do return ⟨[← readRequired key raw]⟩
  | .list items => do return ⟨← Checked.gather (items.map (readListItem key))⟩
  | .dict entries => do return ⟨← Checked.gather (entries.map (readOutcome key))⟩
  | value => .wrongShape key "str, list or dict" value

/-! ### Prefix tables -/

/-- An entry of a prefix table, its type in canonical spelling. -/
def readPrefix (key : String) (entry : String × Json) : Checked (String × String) :=
  match entry.2 with
  | .str required => .ok (TypeSpelling.canonical entry.1, required)
  | value => .defect (.itemShape key entry.1 "str" value.shape)

/-- The prefix table that a value stands for. -/
def readPrefixes (key : String) : Json → Checked PrefixTable
  | .dict entries => do return .ofList (← Checked.gather (entries.map (readPrefix key)))
  | value => .wrongShape key "dict" value

/-! ### Include guards -/

/-- A choice among a few names. -/
def readChoice {α : Type} (key choices : String) (ofName? : String → Option α) (value : Json) :
    Checked α := do
  let name ← Checked.text key value
  match ofName? name with
  | some a => return a
  | none => .defect (.invalidChoice key name choices)

/-- A change of a policy. -/
abbrev PolicyChange := GuardPolicy → GuardPolicy

/-- The change that an option of that name makes; `key` is its full key. -/
def readOption (option key : String) (value : Json) : Checked PolicyChange :=
  match option with
  | "required" => do
    let required ← Checked.truth key value
    return fun p => { p with required := required }
  | "input" => do
    let input ← readChoice key GuardInput.choices GuardInput.ofName? value
    return fun p => { p with input := input }
  | "case" => do
    let guardCase ← readChoice key GuardCase.choices GuardCase.ofName? value
    return fun p => { p with guardCase := guardCase }
  | "prefix" => do
    let before ← Checked.text key value
    return fun p => { p with before := before }
  | "suffix" => do
    let after ← Checked.text key value
    return fun p => { p with after := after }
  | "max_linenr" => do
    let lineLimit ← Checked.lineCount key value
    return fun p => { p with lineLimit := lineLimit }
  | "RE_HEADERFILE" => do
    let header ← readPattern key (← Checked.text key value)
    return fun p => { p with header := header }
  | _ => if isComment option then return id else .defect (.unknownKey key)

/-- The change that an entry makes. -/
def readGuardEntry (key : String) (entry : String × Json) : Checked PolicyChange :=
  match entry.2 with
  | .null => return id
  | value => readOption entry.1 (key ++ "." ++ entry.1) value

/-- The guard policy that a value stands for. -/
def readGuard (key : String) : Json → Checked GuardPolicy
  | .dict entries => do
    let changes ← Checked.gather (entries.map (readGuardEntry key))
    return changes.foldl (fun p change => change p) {}
  | value => .wrongShape key "dict" value

/-! ### Documents -/

/-- The setting that the value of a known key gives, if any. -/
def Key.read (kind : Key) (key : String) (value : Json) : Checked (Option Setting) :=
  match kind with
  | rule k => do return some (.rule k (← readRule key value))
  | variablePrefixes => do return some (.variablePrefixes (← readPrefixes key value))
  | functionPrefixes => do return some (.functionPrefixes (← readPrefixes key value))
  | includeGuard => do return some (.includeGuard (← readGuard key value))
  | skipOneCharVariables => do return some (.skipOneCharVariables (← Checked.truth key value))
  | comment => return none

/-- The setting that an entry gives, if any. -/
def readEntry (entry : String × Json) : Checked (Option Setting) :=
  match Key.ofText? entry.1, entry.2 with
  | none, _ => .defect (.unknownKey entry.1)
  | some _, .null => return none
  | some kind, value => kind.read entry.1 value

/-- The settings with what an entry gives.  Include guards with defects are unset. -/
def applyEntry (s : Settings) (entry : String × Json) : Settings :=
  match readEntry entry with
  | .ok (some setting) => s.set setting
  | .ok none => s
  | .error _ =>
    if Key.ofText? entry.1 = some .includeGuard then { s with includeGuard := none } else s

end Config

end NameLint

/-
Validation: from a document to settings and diagnostics.

The entries are read in order, with the settings so far and one list of diagnostics for all
of them.  An entry that is good sets a component of the settings; one that has defects adds
them to the list.
-/
import NameLint.Config.GuardReader

namespace NameLint

/-- A document as a configuration: its entries in order. -/
abbrev Config.Document := List (String × Json)

/-- What a document gives. -/
structure Validation where
  /-- The settings of the entries without defects. -/
  settings : Settings
  /-- All defects, in the order of the document. -/
  diagnostics : List Diagnostic

namespace Config

open Reporting

/-- What a key stands for. -/
inductive Key where
  /-- The naming rule of a kind of symbols. -/
  | rule (key : RuleKey)
  /-- The prefixes of variables. -/
  | variablePrefixes
  /-- The prefixes of functions. -/
  | functionPrefixes
  /-- The include guards. -/
  | includeGuard
  /-- Names of one character. -/
  | skipOneCharVariables
  /-- A comment. -/
  | comment
deriving DecidableEq, Repr

/-- What a key stands for, if it is known. -/
def Key.ofText? (key : String) : Option Key :=
  match RuleKey.ofText? key with
  | some k => some (.rule k)
  | none =>
    if key = "var_prefixes" then some variablePrefixes
    else if key = "function_prefixes" then some functionPrefixes
    else if key = "include_guard" then some includeGuard
    else if key = "skip_one_char_variables" then some skipOneCharVariables
    else if isComment key then some comment
    else none

/-- The settings with a component that may have been given. -/
def setIfGiven {α : Type} (s : Settings) (setting : α → Setting) : Option α → Settings
  | some a => s.set (setting a)
  | none => s

/-- The settings with what the value of a known key gives.  Include guards are unset if there is
no policy, everything else stays as it was. -/
def Key.apply (kind : Key) (key : String) (value : Json) (s : Settings) : Reporting Settings :=
  match kind with
  | rule k => return setIfGiven s (.rule k) (← resolveRule key value)
  | variablePrefixes => return setIfGiven s .variablePrefixes (← resolvePrefixes key value)
  | functionPrefixes => return setIfGiven s .functionPrefixes (← resolvePrefixes key value)
  | includeGuard => return { s with includeGuard := ← resolveGuard key value }
  | skipOneCharVariables => return setIfGiven s .skipOneCharVariables (← expectBool key value)
  | comment => return s

/-- The settings with what an entry gives. -/
def validateEntry (s : Settings) (entry : String × Json) : Reporting Settings :=
  match Key.ofText? entry.1, entry.2 with
  | none, _ => do
    report (.unknownKey entry.1)
    return s
  | some _, .null => return s
  | some kind, value => kind.apply entry.1 value s

/-- The settings and the diagnostics that a document gives. -/
def validate (document : Document) : Validation :=
  let (settings, diagnostics) := (document.foldlM validateEntry {}).run []
  { settings, diagnostics }

end Config

/-- Whether a diagnostic is at least as severe as the threshold. -/
def Validation.reaches (v : Validation) (threshold : Severity) : Bool :=
  v.diagnostics.any fun d => d.severity.reaches threshold

end NameLint

/-
Reading guard policies of a configuration.

A policy is a dictionary of options.  What the options give is gathered in `GuardParts`,
each defect is reported, and there is a policy only if there was none.  A null counts as
not there, and so does a key that starts with an underscore.
-/
import NameLint.Config.RuleReader

namespace NameLint.Config

open Reporting

/-- Whether a key only holds a comment. -/
def isComment (key : String) : Bool :=
  key.toList.head? = some '_'

/-- A choice among a few names. -/
def resolveChoice {α : Type} (key choices : String) (ofName? : String → Option α) (value : Json) :
    Reporting (Option α) :=
  (expectText key value).andThen fun name =>
    match ofName? name with
    | some a => return some a
    | none => refuse (.invalidChoice key name choices)

/-- What the options of a policy have given so far. -/
structure GuardParts where
  /-- Whether a header has to have a guard. -/
  required : Bool := true
  /-- What guards are named after. -/
  input : GuardInput := .path
  /-- The case of guards. -/
  guardCase : GuardCase := .upper
  /-- What stands before the derived name. -/
  before : String := ""
  /-- What stands after the derived name. -/
  after : String := ""
  /-- The number of lines in which the guard has to stand, if it is given. -/
  lineLimit : Option Nat := none
  /-- The names of the files that have guards, if they are given. -/
  header : Option NamePattern := none

namespace GuardParts

/-- The parts with an option of that name; `key` is its full key. -/
def setOption (p : GuardParts) (option key : String) (value : Json) : Reporting GuardParts :=
  match option with
  | "required" => do
    return { p with required := (← expectBool key value).getD p.required }
  | "input" => do
    let input ← resolveChoice key GuardInput.choices GuardInput.ofName? value
    return { p with input := input.getD p.input }
  | "case" => do
    let guardCase ← resolveChoice key GuardCase.choices GuardCase.ofName? value
    return { p with guardCase := guardCase.getD p.guardCase }
  | "prefix" => do
    return { p with before := (← expectText key value).getD p.before }
  | "suffix" => do
    return { p with after := (← expectText key value).getD p.after }
  | "max_linenr" => do
    return { p with lineLimit := ← expectLineCount key value }
  | "RE_HEADERFILE" => do
    let header ← (expectText key value).andThen (resolvePattern key)
    return { p with header := header <|> p.header }
  | _ => do
    if !isComment option then report (.unknownKey key)
    return p

/-- The parts with what an entry gives. -/
def setEntry (key : String) (p : GuardParts) (entry : String × Json) : Reporting GuardParts :=
  match entry.2 with
  | .null => return p
  | value => p.setOption entry.1 (key ++ "." ++ entry.1) value

/-- The policy of the parts, for the given headers. -/
def policy (p : GuardParts) (header : NamePattern) : GuardPolicy where
  header := header
  required := p.required
  input := p.input
  guardCase := p.guardCase
  before := p.before
  after := p.after
  lineLimit := p.lineLimit.getD ({} : GuardPolicy).lineLimit

end GuardParts

/-- The policy of all parts.  The pattern for headers is the default one unless it is given. -/
def finishGuard (key : String) (p : GuardParts) : Reporting (Option GuardPolicy) := do
  let header ← match p.header with
    | some header => pure (some header)
    | none => resolvePattern (key ++ ".RE_HEADERFILE") defaultHeader
  return header.map p.policy

/-- The guard policy that a value stands for. -/
def resolveGuard (key : String) : Json → Reporting (Option GuardPolicy)
  | .dict entries => do
    let before ← count
    let parts ← entries.foldlM (GuardParts.setEntry key) {}
    (unlessGrown before parts).andThen (finishGuard key)
  | value => refuse (.wrongShape key "dict" value.shape)

end NameLint.Config

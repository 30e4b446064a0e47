/-
From a command line to an outcome.

The list of rules needs nothing but the rules, so it is made here.
-/
import NameLint.Command.Check
import NameLint.Command.Start
import NameLint.Command.ValidateConfig

/-! ### The list of rules -/

namespace NameLint.Command.ListRules

/-- The text with blanks after it up to a width. -/
def padded (width : Nat) (text : String) : String :=
  text ++ String.ofList (List.replicate (width - text.length) ' ')

/-- The width of the column of names. -/
def nameWidth : Nat := 20

/-- The width of the column of ids. -/
def idWidth : Nat := 32

/-- One line of the table. -/
def row (name id description : String) : String :=
  padded nameWidth name ++ " " ++ padded idWidth id ++ " " ++ description

/-- The lines of a rule: the first of its ids stands beside its name, the others below. -/
def ruleLines (kind : RuleKind) : List String :=
  match kind.ids with
  | [] => []
  | first :: others =>
    row kind.name first kind.description :: others.map fun id => padded nameWidth "" ++ " " ++ id

/-- The list of rules. -/
def lines : List String :=
  ["Available rules:", "", row "Name" "Ids" "Description",
    String.ofList (List.replicate 96 '-')] ++
    (Preset.all.rules.flatMap fun r => ruleLines r.kind) ++
    ["", "Presets:",
      "  all     - naming-convention, include-guard (default)",
      "  naming  - naming-convention only",
      "", "Pattern keys:",
      "  " ++ String.intercalate ", " (RuleKey.all.map RuleKey.text)]

end NameLint.Command.ListRules

/-! ### Running -/

namespace NameLint.Command

variable {m : Type → Type} [Monad m]

/-- Carries out what is asked for. -/
def Invocation.run (files : FileAccess m) (s : Surroundings) (i : Invocation) : m Outcome :=
  match i.task with
  | .check options => Check.run files s i.config options
  | .validateConfig => ValidateConfig.run files s i.config
  | .listRules => return { out := ListRules.lines }
  | .start force => Start.run files force

/-- Runs a command line. -/
def run (files : FileAccess m) (s : Surroundings) (arguments : List Path) : m Outcome :=
  match Invocation.ofArguments arguments with
  | .ok i => i.run files s
  | .error usage => return { status := usage.status }

end NameLint.Command

/-
Rules, and what they find in a unit.
-/
import NameLint.Dump.Sources
import NameLint.Report
import NameLint.Rule.IncludeGuard
import NameLint.Rule.Naming

namespace NameLint

/-- The kinds of rules. -/
inductive RuleKind where
  /-- The rule for names. -/
  | naming
  /-- The rule for include guards. -/
  | includeGuard
deriving DecidableEq, Repr

namespace RuleKind

/-- The name of the rule. -/
def name : RuleKind → String
  | naming => Naming.name
  | includeGuard => IncludeGuard.name

/-- The ids of the violations it finds. -/
def ids : RuleKind → List String
  | naming => [Naming.violationId]
  | includeGuard => [IncludeGuard.missingId, IncludeGuard.nameId, IncludeGuard.invalidId]

/-- What it checks. -/
def description : RuleKind → String
  | naming => Naming.description
  | includeGuard => IncludeGuard.description

end RuleKind

/-- A rule with the severity of what it finds. -/
structure Rule where
  /-- The kind of the rule. -/
  kind : RuleKind
  /-- The severity. -/
  severity : Severity := .style
deriving DecidableEq, Repr

/-- What a rule finds in a unit. -/
def Rule.check (r : Rule) (s : Settings) (u : CompilationUnit) : List Violation :=
  match r.kind with
  | .naming => Naming.check r.severity s u
  | .includeGuard => IncludeGuard.check r.severity s u

/-- A choice of rules. -/
inductive Preset where
  /-- All rules. -/
  | all
  /-- The rule for names alone. -/
  | naming
deriving DecidableEq, Repr, Inhabited

/-- The rules of a choice. -/
def Preset.rules : Preset → List Rule
  | all => [{ kind := .naming }, { kind := .includeGuard }]
  | naming => [{ kind := .naming }]

/-- What rules find in a unit, rule by rule. -/
def analyze (rules : List Rule) (s : Settings) (u : CompilationUnit) : Report :=
  ⟨rules.flatMap fun r => r.check s u⟩

/-- What rules find in the unit of a dump file. -/
def analyzeDump {m : Type → Type} [Monad m] (files : FileAccess m) (rules : List Rule)
    (s : Settings) (path : Path) : m (Except LoadError Report) := do
  return (← CompilationUnit.load files path).map (analyze rules s)

end NameLint

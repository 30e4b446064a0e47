/-
The check of the configuration alone.
-/
import NameLint.Command.Lookup

namespace NameLint.Command.ValidateConfig

variable {m : Type → Type} [Monad m]

/-- The keys of the rules that are set. -/
def activeRules (s : Settings) : List String :=
  (RuleKey.all.filter fun k => (s.rule k).isSome).map RuleKey.text

/-- The line about the rules that are set, if there are any. -/
def activeLines (s : Settings) : List String :=
  if (activeRules s).isEmpty then []
  else ["Active rules: " ++ String.intercalate ", " (activeRules s)]

/-- The line about include guards, if they are checked. -/
def guardLines (s : Settings) : List String :=
  if s.includeGuard.isSome then ["Include guard: enabled"] else []

/-- The line about the number of defects. -/
def verdictLine (v : Validation) : String :=
  if v.diagnostics.isEmpty then "Config OK"
  else decimal v.diagnostics.length ++ " config error(s)"

/-- What is printed about a configuration, and the status. -/
def outcome (found : Lookup.Found) : Outcome :=
  let v := Config.validate found.document
  { out := [found.line] ++ v.diagnostics.map (fun d => "config error: " ++ d.message) ++
      activeLines v.settings ++ guardLines v.settings ++ [verdictLine v]
    status := if v.diagnostics.isEmpty then 0 else 1 }

/-- Runs the check of the configuration. -/
def run (files : FileAccess m) (s : Surroundings) (config : Option Path) : m Outcome := do
  match ← Lookup.load files s config with
  | .error f => return f.outcome
  | .ok found => return outcome found

end NameLint.Command.ValidateConfig

/-
Settings: a configuration that is ready for use.
-/
import NameLint.Config.GuardPolicy
import NameLint.Config.PrefixTable
import NameLint.Config.RuleKey

namespace NameLint

/-- What rules are told to check. -/
structure Settings where
  /-- The naming rule of each kind of symbols that has one. -/
  rule : RuleKey → Option RuleSpec := fun _ => none
  /-- The prefixes that variables carry, by their types. -/
  variablePrefixes : PrefixTable := {}
  /-- The prefixes that functions carry, by their return types. -/
  functionPrefixes : PrefixTable := {}
  /-- What is asked of include guards, if anything. -/
  includeGuard : Option GuardPolicy := none
  /-- Whether variables with names of one character need not match patterns. -/
  skipOneCharVariables : Bool := false

/-- One component of the settings. -/
inductive Setting where
  /-- The naming rule of a kind of symbols. -/
  | rule (key : RuleKey) (spec : RuleSpec)
  /-- The prefixes of variables. -/
  | variablePrefixes (table : PrefixTable)
  /-- The prefixes of functions. -/
  | functionPrefixes (table : PrefixTable)
  /-- What is asked of include guards. -/
  | includeGuard (policy : GuardPolicy)
  /-- Whether names of one character are passed over. -/
  | skipOneCharVariables (skip : Bool)

/-- The settings with one component replaced. -/
def Settings.set (s : Settings) : Setting → Settings
  | .rule key spec => { s with rule := fun k => if k = key then some spec else s.rule k }
  | .variablePrefixes table => { s with variablePrefixes := table }
  | .functionPrefixes table => { s with functionPrefixes := table }
  | .includeGuard policy => { s with includeGuard := some policy }
  | .skipOneCharVariables skip => { s with skipOneCharVariables := skip }

end NameLint

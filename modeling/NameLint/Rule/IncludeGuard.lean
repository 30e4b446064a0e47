/-
The rule for include guards.

Every header whose lines are known gets one verdict: its guard is missing, malformed or
misnamed, or all is well.
-/
import NameLint.Config.Settings
import NameLint.Dump.CompilationUnit
import NameLint.Guard.Scan

namespace NameLint.IncludeGuard

/-- The name of the rule. -/
def name : String := "include-guard"

/-- What the rule checks. -/
def description : String := "Checks that headers open with an #ifndef guard named after the file"

/-- The id for headers without a guard. -/
def missingId : String := "namingng-includeGuardMissing"

/-- The id for guards with another name than the expected one. -/
def nameId : String := "namingng-includeGuardName"

/-- The id for guards without exactly one word. -/
def invalidId : String := "namingng-includeGuardInvalid"

/-- The verdict on a header with that path, from what its lines hold. -/
def verdict (policy : GuardPolicy) (severity : Severity) (path : Path) :
    Guard.Scan → Option Violation
  | .missing =>
    if policy.required then
      some ⟨missingId, severity, .wholeFile path, "Missing include guard"⟩
    else none
  | .invalid line column =>
    some ⟨invalidId, severity, ⟨path, line, column⟩, "Invalid #ifndef directive"⟩
  | .found token line column =>
    let expected := policy.expectedGuard path
    let token := String.ofList token
    if token = expected then none
    else
      some ⟨nameId, severity, ⟨path, line, column⟩,
        "include guard naming violation; " ++ token ++ " != " ++ expected⟩

/-- What is wrong with the guard of a file, if it has to have one. -/
def checkFile (policy : GuardPolicy) (severity : Severity) (f : SourceFile) : Option Violation :=
  if policy.appliesTo f.baseName then
    f.lines.bind fun lines => verdict policy severity f.path (Guard.scan lines policy.lineLimit)
  else none

/-- What is wrong with the guards of a unit. -/
def check (severity : Severity) (s : Settings) (u : CompilationUnit) : List Violation :=
  match s.includeGuard with
  | none => []
  | some policy => u.files.filterMap (checkFile policy severity)

end NameLint.IncludeGuard

/-
What a check of dumps found.

Every dump gives a report or a failure to load.  The totals count the diagnostics of the
configuration and the violations in all dumps that were loaded.

The lines of a check show its paths, so they can always be printed.  Its document can only be
printed if all paths in it are texts; otherwise the check gives up once the failures to load
have been reported, and before its status is looked at.
-/
import NameLint.Command.Invocation
import NameLint.Command.Outcome
import NameLint.Config.Validation

namespace NameLint.Command

/-- What became of a dump. -/
structure DumpResult where
  /-- The path of the dump. -/
  dump : Path
  /-- What was found in it, or why it could not be loaded. -/
  result : Except LoadError Report

/-- What a check found. -/
structure CheckReport where
  /-- The defects of the configuration. -/
  diagnostics : List Diagnostic
  /-- What became of the dumps, in order. -/
  results : List DumpResult

namespace CheckReport

/-! ### Parts and totals -/

/-- The dumps that were loaded, with what was found in them. -/
def units (c : CheckReport) : List (Path × Report) :=
  c.results.filterMap fun r =>
    match r.result with
    | .ok report => some (r.dump, report)
    | .error _ => none

/-- Why dumps could not be loaded. -/
def failures (c : CheckReport) : List LoadError :=
  c.results.filterMap fun r =>
    match r.result with
    | .ok _ => none
    | .error cause => some cause

/-- The violations in all dumps, in order. -/
def violations (c : CheckReport) : List Violation :=
  c.units.flatMap fun u => u.2.violations

/-- The severities of all findings. -/
def severities (c : CheckReport) : List Severity :=
  c.diagnostics.map Diagnostic.severity ++ c.violations.map Violation.severity

/-- The number of errors. -/
def errors (c : CheckReport) : Nat := c.severities.count .error

/-- The number of matters of style. -/
def styles (c : CheckReport) : Nat := c.severities.count .style

/-- Whether a finding is at least as severe as the threshold. -/
def reaches (c : CheckReport) (threshold : Severity) : Bool :=
  match threshold with
  | .style => 0 < c.errors + c.styles
  | .error => 0 < c.errors

/-- The status of a check: a dump that could not be loaded fails it whatever the threshold. -/
def status (c : CheckReport) (threshold : Severity) : Nat :=
  if !c.failures.isEmpty || c.reaches threshold then 1 else 0

/-! ### Texts -/

/-- The lines about the configuration. -/
def configLines (c : CheckReport) : List String :=
  c.diagnostics.map fun d => "config error: " ++ d.message

/-- The lines about dumps that could not be loaded. -/
def failureLines (c : CheckReport) : List String :=
  c.failures.map fun cause => "error: " ++ cause.message

/-- The colour of the totals, as a code for terminals. -/
def colour (c : CheckReport) : String :=
  if 0 < c.errors then "\x1b[31m" else if 0 < c.styles then "\x1b[33m" else "\x1b[32m"

/-- The line with the totals. -/
def summaryLine (c : CheckReport) : String :=
  c.colour ++ "Found " ++ decimal c.errors ++ " error(s), " ++ decimal c.styles ++
    " style issue(s) in " ++ decimal c.units.length ++ " dump(s)\x1b[0m"

/-- The record of a diagnostic. -/
def diagnosticJson (d : Diagnostic) : Json :=
  .dict [("key", .str d.key), ("code", .str d.code), ("severity", .str d.severity.name),
    ("message", .str d.message)]

/-- The record of a dump. -/
def unitJson (u : Path × Report) : Json.Written := do
  return .dict [("dump", ← u.1.toJson),
    ("violations", .list (← u.2.violations.mapM Violation.toJson))]

/-- The record of a check. -/
def toJson (c : CheckReport) : Json.Written := do
  return .dict [("config_errors", .list (c.diagnostics.map diagnosticJson)),
    ("units", .list (← c.units.mapM unitJson)),
    ("summary", .dict [("units", .int c.units.length), ("errors", .int c.errors),
      ("styles", .int c.styles)])]

/-- What a check prints, and its status. -/
def outcome (c : CheckReport) (format : OutputFormat) (threshold : Severity) : Outcome :=
  let status := c.status threshold
  match format with
  | .text =>
    { out := c.violations.map Violation.text
      err := c.failureLines ++ c.configLines ++ [c.summaryLine], status }
  | .standalone =>
    { out := c.violations.map Violation.standalone
      err := c.failureLines ++ c.configLines, status }
  | .json =>
    match c.toJson with
    | .ok record => { out := [record.pretty], err := c.failureLines, status }
    | .error cause =>
      let failure := (Failure.unprintable cause).outcome
      { failure with err := c.failureLines ++ failure.err }

end CheckReport

end NameLint.Command

/-
Reports: the violations found so far, in the order in which they were found.
-/
import NameLint.Violation

namespace NameLint

/-- Violations in the order in which they were found. -/
structure Report where
  /-- The violations. -/
  violations : List Violation := []
deriving DecidableEq, Repr, Inhabited

namespace Report

/-- The report with one more violation at its end. -/
def push (r : Report) (v : Violation) : Report := ⟨r.violations ++ [v]⟩

/-- The report with more violations at its end. -/
def extend (r : Report) (vs : List Violation) : Report := ⟨r.violations ++ vs⟩

/-- The number of violations. -/
def size (r : Report) : Nat := r.violations.length

/-- Whether there are no violations. -/
def isEmpty (r : Report) : Bool := r.violations.isEmpty

/-- The number of errors. -/
def errors (r : Report) : Nat := r.violations.countP fun v => v.severity = .error

/-- The number of violations that are matters of style. -/
def styles (r : Report) : Nat := r.violations.countP fun v => v.severity = .style

/-- Whether a violation is at least as severe as the threshold. -/
def reaches (r : Report) (threshold : Severity) : Bool :=
  r.violations.any fun v => v.severity.reaches threshold

/-- The record of a report. -/
def toJson (r : Report) : Json.Written := do
  return .dict [("violations", .list (← r.violations.mapM Violation.toJson))]

end Report

end NameLint

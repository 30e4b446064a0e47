/-
Violations: what a rule found wrong, and where.

A violation has a rule id, a severity, a location and a message.  It has two forms as a
line of text, which show its path, and one as a record of a document, if its path is a text.
-/
import NameLint.File.Path
import NameLint.Json.Record
import NameLint.Json.Writer

namespace NameLint

/-! ### Severities -/

/-- How much a violation weighs. -/
inductive Severity where
  /-- A matter of style. -/
  | style
  /-- An error. -/
  | error
deriving DecidableEq, Repr, Inhabited

namespace Severity

/-- The name of a severity. -/
def name : Severity → String
  | style => "style"
  | error => "error"

/-- The severity of that name. -/
def ofName? (s : String) : Option Severity :=
  if s = "style" then some style else if s = "error" then some error else none

/-- Whether the severity is at least the threshold. -/
def reaches (s threshold : Severity) : Bool :=
  threshold = style || s = error

end Severity

/-! ### Locations -/

/-- A place in a source file. -/
structure Location where
  /-- The path of the file. -/
  file : Path
  /-- The line, counted from one; zero for the whole file. -/
  line : Nat
  /-- The column, counted from one; zero for the whole line. -/
  column : Nat
deriving DecidableEq, Repr, Inhabited

/-- The location that stands for a whole file. -/
def Location.wholeFile (file : Path) : Location := ⟨file, 0, 0⟩

/-! ### Violations -/

/-- A finding of a rule. -/
structure Violation where
  /-- The id of the rule. -/
  ruleId : String
  /-- The severity. -/
  severity : Severity
  /-- Where it was found. -/
  location : Location
  /-- What is wrong. -/
  message : String
deriving DecidableEq, Repr, Inhabited

/-- The decimal text of a number. -/
def decimal (n : Nat) : String := String.ofList (Nat.toDigits 10 n)

namespace Violation

/-- The line `file:line:column: severity: message [id]`. -/
def text (v : Violation) : String :=
  v.location.file.shown ++ ":" ++ decimal v.location.line ++ ":" ++ decimal v.location.column
    ++ ": " ++ v.severity.name ++ ": " ++ v.message ++ " [" ++ v.ruleId ++ "]"

/-- The line `[file:line] (severity) message`. -/
def standalone (v : Violation) : String :=
  "[" ++ v.location.file.shown ++ ":" ++ decimal v.location.line ++ "] (" ++ v.severity.name ++ ") "
    ++ v.message

end Violation

/-! ### As records of a document -/

namespace Path

/-- The value of a path. -/
def toJson (path : Path) : Json.Written :=
  match path.text? with
  | some text => .ok (.str text)
  | none => .error .pathNotText

/-- Reads a path. -/
def read : Json.Read Path :=
  ofText <$> Json.textOr "path string"

end Path

namespace Location

/-- The record of a location. -/
def toJson (l : Location) : Json.Written := do
  return .dict [("file", ← l.file.toJson), ("line", .int l.line), ("column", .int l.column)]

/-- The fields of a location read so far. -/
structure Parts where
  file : Option Path := none
  line : Option Nat := none
  column : Option Nat := none

/-- Reads the value of one field. -/
def Parts.step (key : String) (p : Parts) : Json.Read Parts :=
  match key with
  | "file" => Json.fieldOnce key p.file Path.read fun a => { p with file := some a }
  | "line" => Json.fieldOnce key p.line Json.natural fun a => { p with line := some a }
  | "column" => Json.fieldOnce key p.column Json.natural fun a => { p with column := some a }
  | _ => Json.unknownField p

/-- Reads a location. -/
def read : Json.Read Location :=
  Json.record "Location"
    (do
      let file ← Json.fieldAt "Location" 3 0 Path.read
      let line ← Json.fieldAtOr 0 1 Json.natural
      let column ← Json.fieldAtOr 0 2 Json.natural
      return ⟨file, line, column⟩)
    (do
      let p ← Json.entries Parts.step {}
      return ⟨← Json.present "file" p.file, p.line.getD 0, p.column.getD 0⟩)

end Location

namespace Severity

/-- Reads a severity. -/
def read : Json.Read Severity :=
  Json.variant ["style", "error"] ofName?

end Severity

namespace Violation

/-- The record of a violation. -/
def toJson (v : Violation) : Json.Written := do
  return .dict [("rule_id", .str v.ruleId), ("severity", .str v.severity.name),
    ("location", ← v.location.toJson), ("message", .str v.message)]

/-- The fields of a violation read so far. -/
structure Parts where
  ruleId : Option String := none
  severity : Option Severity := none
  location : Option Location := none
  message : Option String := none

/-- Reads the value of one field. -/
def Parts.step (key : String) (p : Parts) : Json.Read Parts :=
  match key with
  | "rule_id" =>
    Json.fieldOnce key p.ruleId (Json.textOr "a string") fun a => { p with ruleId := some a }
  | "severity" => Json.fieldOnce key p.severity Severity.read fun a => { p with severity := some a }
  | "location" => Json.fieldOnce key p.location Location.read fun a => { p with location := some a }
  | "message" =>
    Json.fieldOnce key p.message (Json.textOr "a string") fun a => { p with message := some a }
  | _ => Json.unknownField p

/-- Reads a violation. -/
def read : Json.Read Violation :=
  Json.record "Violation"
    (do
      let ruleId ← Json.fieldAt "Violation" 4 0 (Json.textOr "a string")
      let severity ← Json.fieldAt "Violation" 4 1 Severity.read
      let location ← Json.fieldAt "Violation" 4 2 Location.read
      let message ← Json.fieldAt "Violation" 4 3 (Json.textOr "a string")
      return ⟨ruleId, severity, location, message⟩)
    (do
      let p ← Json.entries Parts.step {}
      let ruleId ← Json.present "rule_id" p.ruleId
      let severity ← Json.present "severity" p.severity
      let location ← Json.present "location" p.location
      let message ← Json.present "message" p.message
      return ⟨ruleId, severity, location, message⟩)

/-- The violation that a document holds. -/
def parse (source : String) : Except Json.ReadError Violation :=
  Json.document read source

end Violation

end NameLint

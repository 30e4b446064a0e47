/-
The document of a check.

A record is written if its paths are texts, and the paths in the record of a check are of two
kinds.  Those of the violations are always texts: a rule puts its violations where the unit has
its files and symbols (`file_mem_paths_of_mem_analyze`), and these paths were read from a
document.  Those of the dumps come from the command line or from a directory, and they need not
be texts.  So it is up to the paths of the dumps that were loaded whether the document of a
check can be printed, and if it can, the record is the one that is spelled out here.
-/
import NameLint.Command.CheckReport
import NameLint.Proofs.Dump.Sources
import NameLint.Proofs.Rule.GuardVerdict

namespace NameLint

/-! ### Where violations are -/

section Places

variable {severity : Severity} {s : Settings} {u : CompilationUnit} {v : Violation}

theorem CompilationUnit.place_mem_paths {x : Symbol} (h : x ∈ u.symbols) :
    (Naming.place x).file ∈ u.paths := by
  simp only [symbols, paths, List.mem_append, List.mem_map] at h ⊢
  rcases h with (((⟨f, hf, rfl⟩ | ⟨v, hv, rfl⟩) | ⟨f, hf, rfl⟩) | ⟨c, hc, rfl⟩) | ⟨n, hn, rfl⟩
  · exact Or.inl (Or.inl (Or.inl (Or.inl ⟨f, hf, rfl⟩)))
  · exact Or.inl (Or.inl (Or.inl (Or.inr ⟨v, hv, rfl⟩)))
  · exact Or.inl (Or.inl (Or.inr ⟨f, hf, rfl⟩))
  · exact Or.inl (Or.inr ⟨c, hc, rfl⟩)
  · exact Or.inr ⟨n, hn, rfl⟩

theorem Naming.file_mem_paths (h : v ∈ check severity s u) : v.location.file ∈ u.paths := by
  obtain ⟨x, hx, hv⟩ := List.mem_flatMap.mp h
  obtain ⟨message, -, rfl⟩ := List.mem_map.mp hv
  rw [location_eq_place]
  exact CompilationUnit.place_mem_paths hx

theorem IncludeGuard.file_mem_paths (h : v ∈ check severity s u) : v.location.file ∈ u.paths := by
  unfold check at h
  cases hpolicy : s.includeGuard with
  | none =>
      rw [hpolicy] at h
      exact absurd h List.not_mem_nil
  | some policy =>
      rw [hpolicy] at h
      obtain ⟨f, hf, hfault⟩ := List.mem_filterMap.mp h
      rw [file_of_fault (checkFile_eq_some_iff.mp hfault)]
      exact CompilationUnit.place_mem_paths
        (x := .file f) (by simp [CompilationUnit.symbols, hf])

/-- Rules find something wrong only in the files of a unit and where its symbols are declared. -/
theorem file_mem_paths_of_mem_analyze {rules : List Rule} (h : v ∈ (analyze rules s u).violations) :
    v.location.file ∈ u.paths := by
  obtain ⟨⟨kind, severity⟩, -, hv⟩ := List.mem_flatMap.mp h
  cases kind with
  | naming => exact Naming.file_mem_paths hv
  | includeGuard => exact IncludeGuard.file_mem_paths hv

end Places

section Dumps

variable {σ : Type} {files : FileAccess (StateM σ)} {t : σ} {rules : List Rule} {s : Settings}
  {path : Path} {r : Report}

/-- A report on a dump is one on the unit that the dump holds, with the lines of its files. -/
theorem exists_of_analyzeDump_eq_ok (h : files.IsReadOnly)
    (hr : (analyzeDump files rules s path t).1 = .ok r) :
    ∃ source u, CompilationUnit.parse source = .ok u ∧
      r = analyze rules s (u.withLines files (Path.parent path) t).1 := by
  rw [analyzeDump, (CompilationUnit.reads_load h path).run_bind, CompilationUnit.load,
    (h.readText t path).run_bind] at hr
  cases hread : (files.readText path t).1 with
  | error cause =>
      rw [hread] at hr
      cases hr
  | ok source =>
      cases hparse : CompilationUnit.parse source with
      | error cause =>
          simp only [hread, hparse] at hr
          cases hr
      | ok u =>
          simp only [hread, hparse] at hr
          cases hr
          exact ⟨source, u, hparse, rfl⟩

theorem isText_of_analyzeDump (h : files.IsReadOnly)
    (hr : (analyzeDump files rules s path t).1 = .ok r) :
    ∀ v ∈ r.violations, v.location.file.IsText := by
  obtain ⟨source, u, hparse, rfl⟩ := exists_of_analyzeDump_eq_ok h hr
  intro v hv
  have hpath := file_mem_paths_of_mem_analyze hv
  rw [CompilationUnit.paths_withLines h] at hpath
  exact (CompilationUnit.legible_of_parse hparse).isText _ hpath

end Dumps

/-! ### Lines and records, spelled out -/

/-- The word for a severity. -/
def Severity.word : Severity → String
  | style => "style"
  | error => "error"

/-- The text that a path is, if it is one. -/
def Path.words (path : Path) : String :=
  path.text?.getD ""

theorem Path.toJson_eq_ok {path : Path} (h : path.IsText) :
    path.toJson = .ok (.str path.words) := by
  obtain ⟨text, rfl⟩ := h
  refine toJson_eq_ok_iff.mpr ⟨text, rfl, ?_⟩
  rw [words, text?_ofText, Option.getD_some]

theorem Path.shown_eq_words {path : Path} (h : path.IsText) : path.shown = path.words := by
  obtain ⟨text, rfl⟩ := h
  rw [shown_ofText, words, text?_ofText, Option.getD_some]

namespace Violation

/-- The record of a violation. -/
def record (v : Violation) : Json :=
  .dict [("rule_id", .str v.ruleId), ("severity", .str v.severity.word),
    ("location", .dict [("file", .str v.location.file.words), ("line", .int v.location.line),
      ("column", .int v.location.column)]),
    ("message", .str v.message)]

/-- The line of a violation with its column and id. -/
def longLine (v : Violation) : String :=
  v.location.file.words ++ ":" ++ toString v.location.line ++ ":" ++ toString v.location.column
    ++ ": " ++ v.severity.word ++ ": " ++ v.message ++ " [" ++ v.ruleId ++ "]"

/-- The line of a violation that other tools read. -/
def shortLine (v : Violation) : String :=
  "[" ++ v.location.file.words ++ ":" ++ toString v.location.line ++ "] (" ++ v.severity.word
    ++ ") " ++ v.message

/-- The line of a violation in a form that has lines. -/
def line : Command.OutputFormat → Violation → String
  | .standalone => shortLine
  | _ => longLine

variable {v : Violation} (h : v.location.file.IsText)
include h

theorem toJson_eq_ok : v.toJson = .ok v.record := by
  rw [toJson, Location.toJson, Path.toJson_eq_ok h, record]
  cases v.severity <;> rfl

theorem text_eq_longLine : v.text = v.longLine := by
  rw [text, longLine, Path.shown_eq_words h]
  cases v.severity <;> rfl

theorem standalone_eq_shortLine : v.standalone = v.shortLine := by
  rw [standalone, shortLine, Path.shown_eq_words h]
  cases v.severity <;> rfl

end Violation

namespace Command.CheckReport

variable {c : CheckReport} {threshold : Severity}

/-- The record of a dump that was loaded. -/
def unitRecord (dump : Path) (r : Report) : Json :=
  .dict [("dump", .str dump.words), ("violations", .list (r.violations.map Violation.record))]

/-- The record of a check. -/
def record (c : CheckReport) : Json :=
  .dict [("config_errors", .list (c.diagnostics.map diagnosticJson)),
    ("units", .list (c.units.map fun u => unitRecord u.1 u.2)),
    ("summary", .dict [("units", .int c.units.length), ("errors", .int c.errors),
      ("styles", .int c.styles)])]

/-- That the paths of the violations of a check are texts. -/
def Legible (c : CheckReport) : Prop :=
  ∀ u ∈ c.units, ∀ v ∈ u.2.violations, v.location.file.IsText

/-- That all dumps that were loaded have texts for paths. -/
def Printable (c : CheckReport) : Prop :=
  ∀ u ∈ c.units, u.1.IsText

theorem unitJson_eq_ok {dump : Path} {r : Report} (hdump : dump.IsText)
    (hviolations : ∀ v ∈ r.violations, v.location.file.IsText) :
    unitJson (dump, r) = .ok (unitRecord dump r) := by
  have hitems : r.violations.mapM Violation.toJson = .ok (r.violations.map Violation.record) := by
    refine mapM_eq_ok_iff.mpr (List.forall₂_map_right_iff.mpr ?_)
    exact List.forall₂_same.mpr fun v hv => Violation.toJson_eq_ok (hviolations v hv)
  rw [unitJson, Path.toJson_eq_ok hdump, hitems]
  rfl

/-- If the paths of its dumps are texts, a check has the record that is spelled out. -/
theorem toJson_eq_ok (hlegible : c.Legible) (h : c.Printable) : c.toJson = .ok c.record := by
  have hitems : c.units.mapM unitJson = .ok (c.units.map fun u => unitRecord u.1 u.2) := by
    refine mapM_eq_ok_iff.mpr (List.forall₂_map_right_iff.mpr ?_)
    exact List.forall₂_same.mpr fun u hu => unitJson_eq_ok (h u hu) (hlegible u hu)
  rw [toJson, hitems]
  rfl

/-- The path of one dump is enough to keep a check from having a record. -/
theorem toJson_eq_error (h : ¬ c.Printable) : c.toJson = .error .pathNotText := by
  refine Json.eq_pathNotText_iff.mpr ?_
  rintro ⟨value, hvalue⟩
  obtain ⟨items, hitems, -⟩ := bind_eq_ok.mp hvalue
  refine h fun u hu => ?_
  obtain ⟨item, hitem⟩ := exists_mapM_eq_ok_iff.mp ⟨items, hitems⟩ u hu
  obtain ⟨dump, hdump, -⟩ := bind_eq_ok.mp hitem
  exact Path.exists_toJson_iff.mp ⟨dump, hdump⟩

/-! ### What is printed -/

/-- The violations of a check, line by line. -/
theorem out_lines (hlegible : c.Legible) {format : OutputFormat} (hformat : format ≠ .json) :
    (c.outcome format threshold).out = c.violations.map (Violation.line format) := by
  cases format with
  | json => exact absurd rfl hformat
  | text =>
      refine List.map_congr_left fun v hv => ?_
      obtain ⟨u, hu, hv⟩ := List.mem_flatMap.mp hv
      exact Violation.text_eq_longLine (hlegible u hu v hv)
  | standalone =>
      refine List.map_congr_left fun v hv => ?_
      obtain ⟨u, hu, hv⟩ := List.mem_flatMap.mp hv
      exact Violation.standalone_eq_shortLine (hlegible u hu v hv)

theorem outcome_json_of_printable (hlegible : c.Legible) (h : c.Printable) :
    c.outcome .json threshold
      = { out := [c.record.pretty], err := c.failureLines, status := c.status threshold } := by
  rw [outcome, toJson_eq_ok hlegible h]

theorem outcome_json_of_not_printable (h : ¬ c.Printable) : c.outcome .json threshold
    = { err := c.failureLines ++ ["Error: path contains invalid UTF-8 characters"]
        status := 1 } := by
  rw [outcome, toJson_eq_error h]
  rfl

end Command.CheckReport

end NameLint

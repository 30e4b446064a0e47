/-
The status of a check and its totals.

Whether there is a finding of some weight is asked in two ways.  Reports and validations
compare the severity of every finding with the threshold; a check counts its findings by
severity and then looks at the counters, with a case for each threshold.  The two agree
(`reaches_iff_exists`), because every finding falls under one of the two counters.

The counters of a check run over the diagnostics and the violations of all dumps that were
loaded, so they are sums: one summand for the configuration and one for each dump.

All of this only comes to bear if there is something to report on.  A check fails without any
finding if it cannot find its dumps, or cannot print its document.
-/
import Mathlib.Algebra.Order.Ring.Nat
import Mathlib.Data.List.Basic
import NameLint.Proofs.Command.Written

namespace NameLint

/-! ### Severities and counters -/

@[simp]
theorem Severity.reaches_style (s : Severity) : s.reaches .style = true := rfl

@[simp]
theorem Severity.reaches_error_iff {s : Severity} : s.reaches .error = true ↔ s = .error := by
  cases s <;> decide

/-- There are no other severities than these two. -/
theorem Severity.count_add_count (l : List Severity) :
    l.count .error + l.count .style = l.length := by
  induction l with
  | nil => rfl
  | cons s rest ih =>
      rw [List.count_cons, List.count_cons, List.length_cons, ← ih]
      cases s with
      | style => exact (Nat.add_assoc _ _ _).symm
      | error => exact Nat.add_right_comm _ _ _

theorem Report.errors_eq_count (r : Report) :
    r.errors = (r.violations.map Violation.severity).count .error := by
  rw [errors, List.count_eq_countP, List.countP_map]
  exact List.countP_congr fun v _ => by simp

theorem Report.styles_eq_count (r : Report) :
    r.styles = (r.violations.map Violation.severity).count .style := by
  rw [styles, List.count_eq_countP, List.countP_map]
  exact List.countP_congr fun v _ => by simp

/-- What is no error is a matter of style. -/
theorem Report.styles_eq_sub (r : Report) : r.styles = r.size - r.errors := by
  have hlength := Severity.count_add_count (r.violations.map Violation.severity)
  rw [List.length_map, ← r.errors_eq_count, ← r.styles_eq_count] at hlength
  rw [size]
  omega

theorem Report.reaches_iff {r : Report} {threshold : Severity} :
    r.reaches threshold = true ↔ ∃ v ∈ r.violations, v.severity.reaches threshold = true :=
  List.any_eq_true

theorem Validation.reaches_iff {v : Validation} {threshold : Severity} :
    v.reaches threshold = true ↔ ∃ d ∈ v.diagnostics, d.severity.reaches threshold = true :=
  List.any_eq_true

/-- The value under a key of a dictionary. -/
def Json.field? (key : String) : Json → Option Json
  | .dict entries => entries.lookup key
  | _ => none

namespace Command

/-! ### The dumps that were loaded -/

/-- The report on a dump, if it was loaded. -/
def DumpResult.report? (r : DumpResult) : Option Report := r.result.toOption

/-- The reports on the dumps that were loaded. -/
def loaded (results : List DumpResult) : List Report := results.filterMap DumpResult.report?

@[simp]
theorem mem_loaded {results : List DumpResult} {report : Report} :
    report ∈ loaded results ↔ ∃ r ∈ results, r.result = .ok report := by
  rw [loaded, List.mem_filterMap]
  refine exists_congr fun r => and_congr_right fun _ => ?_
  rw [DumpResult.report?]
  cases r.result with
  | ok found => simp [Except.toOption]
  | error cause => simp [Except.toOption]

namespace CheckReport

variable {c : CheckReport} {threshold : Severity}

theorem map_units (c : CheckReport) : c.units.map Prod.snd = loaded c.results := by
  rw [units, List.map_filterMap, loaded]
  congr 1
  funext r
  rw [DumpResult.report?]
  cases r.result <;> rfl

theorem length_units (c : CheckReport) : c.units.length = (loaded c.results).length := by
  rw [← map_units, List.length_map]

theorem violations_eq_flatMap (c : CheckReport) :
    c.violations = (loaded c.results).flatMap Report.violations := by
  rw [violations, ← map_units, List.flatMap_map]

@[simp]
theorem mem_failures {cause : LoadError} :
    cause ∈ c.failures ↔ ∃ r ∈ c.results, r.result = .error cause := by
  rw [failures, List.mem_filterMap]
  refine exists_congr fun r => and_congr_right fun _ => ?_
  cases r.result with
  | ok report => simp
  | error found => simp

theorem isEmpty_failures_iff :
    c.failures.isEmpty = false ↔ ∃ r ∈ c.results, ∃ cause, r.result = .error cause := by
  rw [List.isEmpty_eq_false_iff_exists_mem]
  simp only [mem_failures]
  exact ⟨fun ⟨cause, r, hr, h⟩ => ⟨r, hr, cause, h⟩, fun ⟨r, hr, cause, h⟩ => ⟨cause, r, hr, h⟩⟩

/-! ### Totals -/

theorem count_severities (c : CheckReport) (s : Severity) :
    c.severities.count s = c.diagnostics.countP (fun d => d.severity = s)
      + ((loaded c.results).map fun r => (r.violations.map Violation.severity).count s).sum := by
  have hdiagnostics : (c.diagnostics.map Diagnostic.severity).count s
      = c.diagnostics.countP fun d => d.severity = s := by
    rw [List.count_eq_countP, List.countP_map]
    exact List.countP_congr fun d _ => by simp
  rw [severities, List.count_append, hdiagnostics, violations_eq_flatMap, List.map_flatMap,
    List.count_flatMap]
  rfl

theorem errors_eq_sum (c : CheckReport) :
    c.errors = c.diagnostics.countP (fun d => d.severity = .error)
      + ((loaded c.results).map Report.errors).sum := by
  rw [errors, count_severities, ← funext Report.errors_eq_count]

theorem styles_eq_sum (c : CheckReport) :
    c.styles = c.diagnostics.countP (fun d => d.severity = .style)
      + ((loaded c.results).map Report.styles).sum := by
  rw [styles, count_severities, ← funext Report.styles_eq_count]

/-! ### Thresholds -/

/-- The counters know what comparing every finding with the threshold would say. -/
theorem reaches_iff_exists :
    c.reaches threshold = true ↔ ∃ s ∈ c.severities, s.reaches threshold = true := by
  cases threshold with
  | style =>
      have hcount : c.errors + c.styles = c.severities.length :=
        Severity.count_add_count c.severities
      calc c.reaches .style = true
          ↔ 0 < c.errors + c.styles := decide_eq_true_iff
        _ ↔ 0 < c.severities.length := by rw [hcount]
        _ ↔ ∃ s, s ∈ c.severities := List.length_pos_iff_exists_mem
        _ ↔ ∃ s ∈ c.severities, s.reaches .style = true := by
            simp only [Severity.reaches_style, and_true]
  | error =>
      calc c.reaches .error = true
          ↔ 0 < c.errors := decide_eq_true_iff
        _ ↔ Severity.error ∈ c.severities := List.count_pos_iff
        _ ↔ ∃ s ∈ c.severities, s.reaches .error = true := by
            simp only [Severity.reaches_error_iff, exists_eq_right]

theorem exists_mem_severities {p : Severity → Prop} : (∃ s ∈ c.severities, p s) ↔
    (∃ d ∈ c.diagnostics, p d.severity) ∨
      ∃ r ∈ c.results, ∃ report, r.result = .ok report ∧ ∃ v ∈ report.violations, p v.severity := by
  simp only [severities, violations_eq_flatMap, List.mem_append, List.mem_map, List.mem_flatMap,
    mem_loaded]
  constructor
  · rintro ⟨_, ⟨d, hd, rfl⟩ | ⟨v, ⟨report, ⟨r, hr, hok⟩, hv⟩, rfl⟩, hs⟩
    · exact Or.inl ⟨d, hd, hs⟩
    · exact Or.inr ⟨r, hr, report, hok, v, hv, hs⟩
  · rintro (⟨d, hd, hs⟩ | ⟨r, hr, report, hok, v, hv, hs⟩)
    · exact ⟨_, Or.inl ⟨d, hd, rfl⟩, hs⟩
    · exact ⟨_, Or.inr ⟨v, ⟨report, ⟨r, hr, hok⟩, hv⟩, rfl⟩, hs⟩

/-- A dump that could not be loaded fails a check, and so does a finding that is as severe as
the threshold, whether it is about the configuration or in a dump. -/
theorem status_eq_one_iff : c.status threshold = 1 ↔
    (∃ r ∈ c.results, ∃ cause, r.result = .error cause) ∨
      (∃ d ∈ c.diagnostics, d.severity.reaches threshold = true) ∨
      ∃ r ∈ c.results, ∃ report, r.result = .ok report ∧ report.reaches threshold = true := by
  have hstatus :
      c.status threshold = 1 ↔ c.failures.isEmpty = false ∨ c.reaches threshold = true := by
    rw [status, ite_eq_left_iff]
    cases c.failures.isEmpty <;> simp
  rw [hstatus, isEmpty_failures_iff, reaches_iff_exists, exists_mem_severities]
  simp only [Report.reaches_iff]

theorem status_le_one (c : CheckReport) (threshold : Severity) : c.status threshold ≤ 1 := by
  rw [status]
  split
  · exact Nat.le_refl 1
  · exact Nat.zero_le 1

/-! ### What is left behind -/

theorem outcome_status_le_one (hlegible : c.Legible) (format : OutputFormat) :
    (c.outcome format threshold).status ≤ 1 := by
  cases format with
  | text | standalone => exact c.status_le_one threshold
  | json =>
      by_cases h : c.Printable
      · rw [outcome_json_of_printable hlegible h]
        exact c.status_le_one threshold
      · rw [outcome_json_of_not_printable h]

/-- A document that cannot be printed fails a check, too. -/
theorem outcome_status_eq_one_iff (hlegible : c.Legible) (format : OutputFormat) :
    (c.outcome format threshold).status = 1 ↔
      c.status threshold = 1 ∨ (format = .json ∧ ¬ c.Printable) := by
  cases format with
  | text | standalone => exact (or_iff_left fun h => nomatch h.1).symm
  | json =>
      by_cases h : c.Printable
      · rw [outcome_json_of_printable hlegible h]
        exact (or_iff_left fun hnot => hnot.2 h).symm
      · rw [outcome_json_of_not_printable h]
        exact iff_of_true rfl (Or.inr ⟨rfl, h⟩)

theorem decimal_eq_toString (n : Nat) : decimal n = toString n := rfl

/-- The totals as a line, in a colour that tells how bad they are. -/
theorem summaryLine_eq (c : CheckReport) : c.summaryLine
    = (if 0 < c.errors then "\x1b[31m" else if 0 < c.styles then "\x1b[33m" else "\x1b[32m")
      ++ "Found " ++ toString c.errors ++ " error(s), " ++ toString c.styles
      ++ " style issue(s) in " ++ toString (loaded c.results).length ++ " dump(s)\x1b[0m" := by
  rw [summaryLine, colour, length_units, decimal_eq_toString, decimal_eq_toString,
    decimal_eq_toString]

theorem getLast?_err_text (c : CheckReport) :
    (c.outcome .text threshold).err.getLast? = some c.summaryLine :=
  List.getLast?_concat

end CheckReport

/-! ### The whole check -/

namespace Check

variable {σ : Type} {files : FileAccess (StateM σ)} {t : σ} {s : Surroundings}
  {config : Option Path} {document : Config.Document} {rules : List Rule} {dumps : List Path}

theorem loaded_reported (h : files.IsReadOnly) :
    let v := Config.validate document
    loaded (reported files t document rules dumps).results
      = dumps.filterMap fun dump => (analyzeDump files rules v.settings dump t).1.toOption := by
  intro v
  rw [reported_eq h, loaded, List.filterMap_map]
  rfl

theorem mem_units_reported (h : files.IsReadOnly) {dump : Path} {r : Report} :
    (dump, r) ∈ (reported files t document rules dumps).units ↔ dump ∈ dumps ∧
      (analyzeDump files rules (Config.validate document).settings dump t).1 = .ok r := by
  rw [reported_eq h, CheckReport.units, List.mem_filterMap]
  simp only [List.mem_map, exists_exists_and_eq_and]
  constructor
  · rintro ⟨other, hother, hfound⟩
    cases hresult : (analyzeDump files rules (Config.validate document).settings other t).1 with
    | error cause =>
        rw [hresult] at hfound
        cases hfound
    | ok found =>
        rw [hresult] at hfound
        cases hfound
        exact ⟨hother, hresult⟩
  · rintro ⟨hdump, hresult⟩
    exact ⟨dump, hdump, by rw [hresult]⟩

/-- The violations of a check have texts for paths, since these come from the dumps. -/
theorem legible_reported (h : files.IsReadOnly) :
    (reported files t document rules dumps).Legible := by
  rintro ⟨dump, r⟩ hunit
  exact isText_of_analyzeDump h ((mem_units_reported h).mp hunit).2

theorem printable_reported_iff (h : files.IsReadOnly) :
    (reported files t document rules dumps).Printable ↔ ∀ dump ∈ dumps, ∀ r,
      (analyzeDump files rules (Config.validate document).settings dump t).1 = .ok r →
        dump.IsText := by
  simp only [CheckReport.Printable, Prod.forall, mem_units_reported h, and_imp]
  exact forall_congr' fun dump => forall_comm

/--
**A check fails exactly if a path, a dump or a threshold says so.**  A check that cannot find
its dumps reports nothing and fails.  If it finds them, its status is one if a dump could not be
loaded, or the validation of the configuration reaches the threshold, or the report on a loaded
dump does, or a document is asked for and the path of a loaded dump is no text; else it is zero.
The totals are those of the diagnostics and of the reports on the loaded dumps taken together:
they are the last line on the error output, or the summary in the document.
-/
theorem status_and_totals (h : files.IsReadOnly) (t : σ) {found : Lookup.Found}
    (hfound : (Lookup.load files s config t).1 = .ok found) (o : CheckOptions) :
    let v := Config.validate found.document
    let discovered := (discover files (OwnIgnores.load files s.user t).1 o.paths t).1
    let result := fun dump => (analyzeDump files o.preset.rules v.settings dump t).1
    let outcome := (run files s config o t).1
    (∀ f, discovered = .error f → outcome.status = 1 ∧ outcome.out = []) ∧
      ∀ dumps, discovered = .ok dumps →
        let reports := dumps.filterMap fun dump => (result dump).toOption
        let errors := v.diagnostics.countP (fun d => d.severity = .error)
          + (reports.map Report.errors).sum
        let styles := v.diagnostics.countP (fun d => d.severity = .style)
          + (reports.map fun r => r.size - r.errors).sum
        let unprintable := o.format = .json ∧
          ∃ dump ∈ dumps, (∃ r, result dump = .ok r) ∧ ¬ dump.IsText
        (outcome.status = 1 ↔ (∃ dump ∈ dumps, ∃ cause, result dump = .error cause) ∨
            v.reaches o.failOn = true ∨
            (∃ dump ∈ dumps, ∃ r, result dump = .ok r ∧ r.reaches o.failOn = true) ∨
            unprintable) ∧
          outcome.status ≤ 1 ∧
          (o.format = .text → outcome.err.getLast? = some
            ((if 0 < errors then "\x1b[31m" else if 0 < styles then "\x1b[33m" else "\x1b[32m")
              ++ "Found " ++ toString errors ++ " error(s), " ++ toString styles
              ++ " style issue(s) in " ++ toString reports.length ++ " dump(s)\x1b[0m")) ∧
          (o.format = .json → ¬ unprintable → ∃ record : Json, outcome.out = [record.pretty] ∧
            record.field? "summary" = some (.dict [("units", .int reports.length),
              ("errors", .int errors), ("styles", .int styles)])) := by
  intro v discovered result outcome
  constructor
  · intro f hf
    have houtcome : outcome = f.outcome := congrArg Prod.fst (run_of_discover_error h hfound hf)
    rw [houtcome]
    exact ⟨rfl, rfl⟩
  intro dumps hdumps reports errors styles unprintable
  let c := reported files t found.document o.preset.rules dumps
  have houtcome : outcome = c.outcome o.format o.failOn :=
    congrArg Prod.fst (run_of_discover h hfound hdumps)
  have hlegible : c.Legible := legible_reported h
  have hprintable : unprintable ↔ o.format = .json ∧ ¬ c.Printable := by
    simp only [unprintable, c, printable_reported_iff h, not_forall, exists_prop, exists_and_right]
    rfl
  have hreports : loaded c.results = reports := loaded_reported h
  have herrors : c.errors = errors := by
    rw [c.errors_eq_sum, hreports]
    rfl
  have hstyles : c.styles = styles := by
    rw [c.styles_eq_sum, hreports, funext Report.styles_eq_sub]
    rfl
  rw [houtcome]
  refine ⟨?_, CheckReport.outcome_status_le_one hlegible _, fun hformat => ?_,
    fun hformat hnot => ?_⟩
  · rw [CheckReport.outcome_status_eq_one_iff hlegible, ← hprintable, CheckReport.status_eq_one_iff,
      Validation.reaches_iff, or_assoc, or_assoc]
    simp only [c, reported_eq h, List.mem_map, exists_exists_and_eq_and]
    exact Iff.rfl
  · rw [hformat, CheckReport.getLast?_err_text, CheckReport.summaryLine_eq, hreports, herrors,
      hstyles]
  · rw [hprintable] at hnot
    have hrecord : c.Printable := not_not.mp fun hc => hnot ⟨hformat, hc⟩
    rw [hformat, CheckReport.outcome_json_of_printable hlegible hrecord, ← herrors, ← hstyles,
      ← hreports, ← CheckReport.length_units]
    exact ⟨c.record, rfl, rfl⟩

/-- Files with a configuration, a dump that is cut off, and a dump with a name that lacks its
prefix. -/
def cutOffDump : FileTree where
  nodes := [(["namingng.json"], .file "\x7b\"var_prefixes\": \x7b\"int\": \"i\"\x7d\x7d".toUTF8),
    (["cut.dump.json"], .file "[".toUTF8),
    (["names.dump.json"], .file ("\x7b\"variables\": [\x7b\"name\": \"n\", \"type\": \"int\", "
      ++ "\"scope\": \"local\", \"location\": \x7b\"file\": \"f.c\"\x7d\x7d]\x7d").toUTF8)]

theorem status_and_totals_of_cut_off_dump :
    let outcome := (run FileTree.access {} none
      { paths := ["cut.dump.json", "names.dump.json"] } cutOffDump).1
    outcome.status = 1 ∧ outcome.err.getLast? =
      some "\x1b[33mFound 0 error(s), 1 style issue(s) in 1 dump(s)\x1b[0m" := by
  let paths : List Path := ["cut.dump.json", "names.dump.json"]
  have hfiles : AllFiles FileTree.access cutOffDump paths := by
    unfold AllFiles
    decide +kernel
  have hfacts : ((Lookup.load FileTree.access {} none cutOffDump).1.toOption.map fun found =>
      let v := Config.validate found.document
      let result := fun dump =>
        (analyzeDump FileTree.access Preset.all.rules v.settings dump cutOffDump).1
      let reports := paths.filterMap fun dump => (result dump).toOption
      ((result "cut.dump.json").isOk, reports.length,
        v.diagnostics.countP (fun d => d.severity = .error) + (reports.map Report.errors).sum,
        v.diagnostics.countP (fun d => d.severity = .style)
          + (reports.map fun r => r.size - r.errors).sum)) = some (false, 1, 0, 1) := by
    decide +kernel
  generalize hload : (Lookup.load FileTree.access {} none cutOffDump).1 = load at hfacts
  cases load with
  | error f => cases hfacts
  | ok found =>
  have hdumps : (discover FileTree.access (OwnIgnores.load FileTree.access {} cutOffDump).1 paths
      cutOffDump).1 = .ok paths :=
    congrArg Prod.fst (discover_of_allFiles FileTree.access_isReadOnly hfiles)
  obtain ⟨hstatus, -, hsummary, -⟩ := (status_and_totals FileTree.access_isReadOnly cutOffDump hload
    { paths := paths }).2 paths hdumps
  have hfacts := Option.some.inj hfacts
  simp only [Prod.mk.injEq] at hfacts
  obtain ⟨hcut, hlength, herrors, hstyles⟩ := hfacts
  have hcause : ∃ cause, (analyzeDump FileTree.access Preset.all.rules
      (Config.validate found.document).settings "cut.dump.json" cutOffDump).1 = .error cause := by
    generalize (analyzeDump FileTree.access Preset.all.rules
      (Config.validate found.document).settings "cut.dump.json" cutOffDump).1 = result at hcut
    cases result with
    | error cause => exact ⟨cause, rfl⟩
    | ok r => cases hcut
  have hline := hsummary rfl
  simp only [hlength, herrors, hstyles] at hline
  exact ⟨hstatus.mpr (Or.inl ⟨"cut.dump.json", List.mem_cons_self, hcause⟩), hline⟩

/-- A dump whose name is no text, and that holds nothing. -/
def oddDump : Path := ⟨[0xFF]⟩ ++ ".dump.json"

/-- A directory with this dump. -/
def oddFiles : FileTree where
  nodes := [([oddDump], .file "\x7b\x7d".toUTF8)]

/-- A check fails although no dump failed to load and nothing was found: the one because the path
of its dump is no text and cannot be printed, the other because its path leads nowhere. -/
theorem failure_without_finding :
    let v := Config.validate []
    let result := fun dump =>
      (analyzeDump FileTree.access Preset.all.rules v.settings dump oddFiles).1
    let check := fun o => (run FileTree.access {} none o oddFiles).1
    let discovered := fun o : CheckOptions => (discover FileTree.access
      (OwnIgnores.load FileTree.access {} oddFiles).1 o.paths oddFiles).1
    let odd : CheckOptions := { paths := [oddDump], format := .json }
    let nowhere : CheckOptions := { paths := ["nowhere"] }
    (Lookup.load FileTree.access {} none oddFiles).1 = .ok ⟨none, []⟩ ∧
      discovered odd = .ok [oddDump] ∧
      ¬ ((check odd).status = 1 ↔ (∃ dump ∈ [oddDump], ∃ cause, result dump = .error cause) ∨
        v.reaches odd.failOn = true ∨
        ∃ dump ∈ [oddDump], ∃ r, result dump = .ok r ∧ r.reaches odd.failOn = true) ∧
      (∃ f, discovered nowhere = .error f) ∧ (check nowhere).status = 1 := by
  intro v result check discovered odd nowhere
  have hload : (Lookup.load FileTree.access {} none oddFiles).1 = .ok ⟨none, []⟩ := by
    rfl
  have hdiscovered : discovered odd = .ok [oddDump] := by
    decide +kernel
  have hresult : result oddDump = .ok {} := by
    decide +kernel
  have hstatus : (check odd).status = 1 := by
    decide +kernel
  have hlost : discovered nowhere
      = .error (.unwalkable "nowhere" (.unreadable "nowhere" .notFound)) := by
    decide +kernel
  have hnowhere : (check nowhere).status = 1 := by
    decide +kernel
  refine ⟨hload, hdiscovered, fun hiff => ?_, ⟨_, hlost⟩, hnowhere⟩
  rcases hiff.mp hstatus with
    ⟨dump, hdump, cause, hcause⟩ | hreaches | ⟨dump, hdump, r, hr, hreaches⟩
  · obtain rfl := List.mem_singleton.mp hdump
    rw [hresult] at hcause
    cases hcause
  · cases hreaches
  · obtain rfl := List.mem_singleton.mp hdump
    rw [hresult] at hr
    cases hr
    cases hreaches

end Check

end Command

end NameLint

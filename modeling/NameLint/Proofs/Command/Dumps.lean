/-
Dumps are checked one by one.

A check reports on its dumps in their order, and what it reports on a dump is what a check
of this dump alone reports: what was found if it could be loaded, and otherwise that it
could not.  All forms show the same violations in the same order.  So the order of the dumps
decides about the order of their parts, and about nothing else.

There are two exceptions, and both take the whole report away.  A path that leads to no file is
taken for a directory, and if that cannot be walked there is no check at all.  And the document
of a check is printed as a whole or not at all: one dump with a path that is no text is enough.

Since a check only looks at the files, the checks that are compared here may be thought of
as made on the same files, whichever comes first.
-/
import NameLint.Proofs.Command.Status

namespace NameLint

/-! ### Lists in records -/

/-- The items of the list under a key of a dictionary; there are none if there is no list. -/
def Json.listAt (key : String) (record : Json) : List Json :=
  match record.field? key with
  | some (.list items) => items
  | _ => []

namespace Command

/-! ### Reports, dump by dump -/

namespace CheckReport

variable {c c' : CheckReport}

private theorem filterMap_eq_flatMap_single {α β : Type} (f : α → Option β) (l : List α) :
    l.filterMap f = l.flatMap fun a => [a].filterMap f := by
  rw [List.filterMap_eq_flatMap_toList]
  refine List.flatMap_congr fun a _ => ?_
  rw [List.filterMap_eq_flatMap_toList, List.flatMap_singleton]

theorem units_eq_flatMap (c : CheckReport) :
    c.units = c.results.flatMap fun r => units ⟨c.diagnostics, [r]⟩ :=
  filterMap_eq_flatMap_single _ c.results

theorem violations_eq_flatMap_single (c : CheckReport) :
    c.violations = c.results.flatMap fun r => violations ⟨c.diagnostics, [r]⟩ := by
  rw [violations, units_eq_flatMap, List.flatMap_assoc]
  rfl

theorem failureLines_eq_flatMap (c : CheckReport) :
    c.failureLines = c.results.flatMap fun r => failureLines ⟨c.diagnostics, [r]⟩ := by
  rw [failureLines, failures, filterMap_eq_flatMap_single, List.map_flatMap]
  rfl

/-- The record of a check holds the records of its dumps, in their order. -/
@[simp]
theorem listAt_record (c : CheckReport) :
    c.record.listAt "units" = c.units.map fun u => unitRecord u.1 u.2 := rfl

theorem listAt_record_eq_flatMap (c : CheckReport) : c.record.listAt "units"
    = c.results.flatMap fun r => (record ⟨c.diagnostics, [r]⟩).listAt "units" := by
  simp only [listAt_record]
  rw [units_eq_flatMap, List.map_flatMap]

/-- All forms show the same violations: the record has those that the lines are about. -/
theorem flatMap_listAt_record (c : CheckReport) :
    (c.record.listAt "units").flatMap (Json.listAt "violations")
      = c.violations.map Violation.record := by
  have hviolations : ∀ u : Path × Report, (unitRecord u.1 u.2).listAt "violations"
      = u.2.violations.map Violation.record := fun _ => rfl
  rw [listAt_record, List.flatMap_map, violations, List.map_flatMap]
  simp only [hviolations]

/-! ### The order of dumps -/

/-- That two reports differ in nothing but the order of the dumps. -/
structure Rearranged (c c' : CheckReport) : Prop where
  /-- The diagnostics are the same. -/
  diagnostics : c.diagnostics = c'.diagnostics
  /-- The results are the same, in any order. -/
  results : c.results.Perm c'.results

namespace Rearranged

theorem severities (h : Rearranged c c') : c.severities.Perm c'.severities := by
  have hunits : c.units.Perm c'.units := h.results.filterMap _
  have hviolations : c.violations.Perm c'.violations := hunits.flatMap_right _
  rw [CheckReport.severities, CheckReport.severities, h.diagnostics]
  exact (hviolations.map _).append_left _

theorem errors (h : Rearranged c c') : c.errors = c'.errors := h.severities.count_eq _

theorem styles (h : Rearranged c c') : c.styles = c'.styles := h.severities.count_eq _

theorem length_units (h : Rearranged c c') : c.units.length = c'.units.length :=
  (h.results.filterMap _).length_eq

theorem status (h : Rearranged c c') (threshold : Severity) :
    c.status threshold = c'.status threshold := by
  have hfailures : c.failures.Perm c'.failures := h.results.filterMap _
  have hreaches : c.reaches threshold = c'.reaches threshold := by
    cases threshold with
    | style => exact congrArg (fun n => decide (0 < n)) (congrArg₂ (· + ·) h.errors h.styles)
    | error => exact congrArg (fun n => decide (0 < n)) h.errors
  rw [CheckReport.status, CheckReport.status, hfailures.isEmpty_eq, hreaches]

theorem printable_iff (h : Rearranged c c') : c.Printable ↔ c'.Printable := by
  have hunits : c.units.Perm c'.units := h.results.filterMap _
  exact forall_congr' fun u => imp_congr_left hunits.mem_iff

theorem configLines (h : Rearranged c c') : c.configLines = c'.configLines := by
  rw [CheckReport.configLines, CheckReport.configLines, h.diagnostics]

theorem summaryLine (h : Rearranged c c') : c.summaryLine = c'.summaryLine := by
  rw [CheckReport.summaryLine, CheckReport.summaryLine, colour, colour, h.errors, h.styles,
    h.length_units]

/-- The records agree under every key but the one that lists the dumps. -/
theorem field?_record (h : Rearranged c c') {key : String} (hkey : key ≠ "units") :
    c.record.field? key = c'.record.field? key := by
  have hunits : (key == "units") = false := beq_eq_false_iff_ne.mpr hkey
  simp only [record, Json.field?, List.lookup_cons, hunits, h.diagnostics, h.errors, h.styles,
    h.length_units]

theorem outcome_status (h : Rearranged c c') (hlegible : c.Legible) (hlegible' : c'.Legible)
    (format : OutputFormat) (threshold : Severity) :
    (c.outcome format threshold).status = (c'.outcome format threshold).status := by
  cases format with
  | text | standalone => exact h.status threshold
  | json =>
      by_cases hc : c.Printable
      · rw [outcome_json_of_printable hlegible hc,
          outcome_json_of_printable hlegible' (h.printable_iff.mp hc)]
        exact h.status threshold
      · rw [outcome_json_of_not_printable hc,
          outcome_json_of_not_printable (mt h.printable_iff.mpr hc)]

/-- What follows the lines about dumps that could not be loaded is the same. -/
theorem exists_err (h : Rearranged c c') (hlegible : c.Legible) (hlegible' : c'.Legible)
    (format : OutputFormat) (threshold : Severity) :
    ∃ rest, (c.outcome format threshold).err = c.failureLines ++ rest ∧
      (c'.outcome format threshold).err = c'.failureLines ++ rest := by
  cases format with
  | text =>
      refine ⟨c.configLines ++ [c.summaryLine], List.append_assoc _ _ _, ?_⟩
      rw [h.configLines, h.summaryLine]
      exact List.append_assoc _ _ _
  | standalone =>
      refine ⟨c.configLines, rfl, ?_⟩
      rw [h.configLines]
      rfl
  | json =>
      by_cases hc : c.Printable
      · rw [outcome_json_of_printable hlegible hc,
          outcome_json_of_printable hlegible' (h.printable_iff.mp hc)]
        exact ⟨[], (List.append_nil _).symm, (List.append_nil _).symm⟩
      · rw [outcome_json_of_not_printable hc,
          outcome_json_of_not_printable (mt h.printable_iff.mpr hc)]
        exact ⟨_, rfl, rfl⟩

end Rearranged

end CheckReport

namespace Check

variable {σ : Type} {files : FileAccess (StateM σ)} {t : σ} {s : Surroundings}
  {config : Option Path} {document : Config.Document} {rules : List Rule} {dumps : List Path}

/-! ### Many dumps -/

/-- What is shown of the dumps together is what is shown of each, if it is so for the results. -/
theorem flatMap_reported {α : Type} (h : files.IsReadOnly) {part : CheckReport → List α}
    (hpart : ∀ c : CheckReport, part c = c.results.flatMap fun r => part ⟨c.diagnostics, [r]⟩) :
    part (reported files t document rules dumps)
      = dumps.flatMap fun dump => part (reported files t document rules [dump]) := by
  rw [hpart]
  simp only [reported_eq h, List.flatMap_map]
  rfl

theorem rearranged_reported (h : files.IsReadOnly) {dumps' : List Path}
    (hperm : dumps.Perm dumps') :
    CheckReport.Rearranged (reported files t document rules dumps)
      (reported files t document rules dumps') := by
  rw [reported_eq h, reported_eq h]
  exact ⟨rfl, hperm.map _⟩

/-! ### One dump -/

theorem reported_of_ok (h : files.IsReadOnly) {dump : Path} {r : Report}
    (hr : (analyzeDump files rules (Config.validate document).settings dump t).1 = .ok r) :
    let c := reported files t document rules [dump]
    c.units = [(dump, r)] ∧ c.violations = r.violations ∧ c.failureLines = [] := by
  intro c
  have hc : c = ⟨(Config.validate document).diagnostics, [⟨dump, .ok r⟩]⟩ := by
    rw [← hr]
    exact reported_eq h [dump]
  rw [hc]
  exact ⟨rfl, List.append_nil _, rfl⟩

theorem reported_of_error (h : files.IsReadOnly) {dump : Path} {cause : LoadError}
    (hcause : (analyzeDump files rules (Config.validate document).settings dump t).1
      = .error cause) :
    let c := reported files t document rules [dump]
    c.units = [] ∧ c.violations = [] ∧ c.failureLines = ["error: " ++ cause.message] := by
  intro c
  have hc : c = ⟨(Config.validate document).diagnostics, [⟨dump, .error cause⟩]⟩ := by
    rw [← hcause]
    exact reported_eq h [dump]
  rw [hc]
  exact ⟨rfl, rfl, rfl⟩

/-- The line about a dump that could not be loaded. -/
def failureOf : Except LoadError Report → List String
  | .ok _ => []
  | .error cause => ["error: " ++ cause.message]

theorem failureLines_reported (h : files.IsReadOnly) (dumps : List Path) :
    (reported files t document rules dumps).failureLines = dumps.flatMap fun dump =>
      failureOf (analyzeDump files rules (Config.validate document).settings dump t).1 := by
  rw [flatMap_reported h CheckReport.failureLines_eq_flatMap]
  refine List.flatMap_congr fun dump _ => ?_
  cases hresult : (analyzeDump files rules (Config.validate document).settings dump t).1 with
  | ok r => exact (reported_of_ok h hresult).2.2
  | error cause => exact (reported_of_error h hresult).2.2

/-! ### Runs -/

section Runs

variable (h : files.IsReadOnly) {found : Lookup.Found}
  (hfound : (Lookup.load files s config t).1 = .ok found) {preset : Preset} {failOn : Severity}
include h hfound

/-- The lines of a check of files are those of the violations. -/
theorem out_of_allFiles (hfiles : AllFiles files t dumps) {format : OutputFormat}
    (hformat : format ≠ .json) : (run files s config ⟨dumps, format, failOn, preset⟩ t).1.out
      = (reported files t found.document preset.rules dumps).violations.map
          (Violation.line format) := by
  rw [run_of_allFiles h hfound hfiles, CheckReport.out_lines (legible_reported h) hformat]

/-- What the lines of a check show is what they show of each file alone. -/
theorem out_eq_flatMap (hfiles : AllFiles files t dumps) {format : OutputFormat}
    (hformat : format ≠ .json) :
    (run files s config ⟨dumps, format, failOn, preset⟩ t).1.out = dumps.flatMap fun dump =>
      (run files s config ⟨[dump], format, failOn, preset⟩ t).1.out := by
  rw [out_of_allFiles h hfound hfiles hformat,
    flatMap_reported h CheckReport.violations_eq_flatMap_single, List.map_flatMap]
  refine List.flatMap_congr fun dump hdump => ?_
  have hfile : AllFiles files t [dump] := List.forall_mem_singleton.mpr (hfiles dump hdump)
  rw [out_of_allFiles h hfound hfile hformat]

end Runs

/--
**Dumps are checked one by one, in their order.**  A check of paths is a check of the files that
are found there, and fails as a whole if a path cannot be walked.  Of a file that is a dump the
lines show its violations, and the document does so if its path is a text; of any other file
nothing is shown but a line that says why it could not be loaded.  Of many files the lines and
the document have the parts of each file alone, one after the other, and the document is about
the violations that the lines show; but there is no document if the path of a loaded dump is no
text.  With the files in another order the same parts come in that order, and the status, the
other lines and the rest of the document stay what they are.
-/
theorem check_dump_by_dump (h : files.IsReadOnly) (t : σ) {found : Lookup.Found}
    (hfound : (Lookup.load files s config t).1 = .ok found) (preset : Preset) (failOn : Severity) :
    let v := Config.validate found.document
    let result := fun dump => (analyzeDump files preset.rules v.settings dump t).1
    let discovered := fun paths => (discover files (OwnIgnores.load files s.user t).1 paths t).1
    let check := fun paths format => (run files s config ⟨paths, format, failOn, preset⟩ t).1
    let record := fun dumps : List Path =>
      CheckReport.record ⟨v.diagnostics, dumps.map fun dump => ⟨dump, result dump⟩⟩
    let printable := fun dumps : List Path => ∀ dump ∈ dumps, ∀ r, result dump = .ok r → dump.IsText
    (∀ paths format, (∀ f, discovered paths = .error f → check paths format = f.outcome) ∧
        ∀ dumps, discovered paths = .ok dumps →
          AllFiles files t dumps ∧ check paths format = check dumps format) ∧
      (∀ dump r, (files.isFile dump t).1 = true → result dump = .ok r →
        (∀ w ∈ r.violations, w.location.file.IsText) ∧
        (check [dump] .text).out = r.violations.map Violation.longLine ∧
        (check [dump] .standalone).out = r.violations.map Violation.shortLine ∧
        (record [dump]).listAt "units" = [.dict [("dump", .str dump.words),
          ("violations", .list (r.violations.map Violation.record))]]) ∧
      (∀ dump cause, (files.isFile dump t).1 = true → result dump = .error cause →
        (check [dump] .text).out = [] ∧ (check [dump] .standalone).out = [] ∧
        (record [dump]).listAt "units" = []) ∧
      (∀ dumps, AllFiles files t dumps →
        (check dumps .text).out = dumps.flatMap (fun dump => (check [dump] .text).out) ∧
        (check dumps .standalone).out = dumps.flatMap (fun dump => (check [dump] .standalone).out) ∧
        (printable dumps → (check dumps .json).out = [(record dumps).pretty]) ∧
        (¬ printable dumps → (check dumps .json).out = [] ∧ (check dumps .json).status = 1) ∧
        (record dumps).listAt "units"
          = dumps.flatMap (fun dump => (record [dump]).listAt "units") ∧
        ∃ violations : List Violation, (check dumps .text).out = violations.map Violation.longLine ∧
          (check dumps .standalone).out = violations.map Violation.shortLine ∧
          ((record dumps).listAt "units").flatMap (Json.listAt "violations")
            = violations.map Violation.record) ∧
      ∀ dumps dumps' : List Path, AllFiles files t dumps → dumps.Perm dumps' →
        (∀ format, (check dumps format).status = (check dumps' format).status ∧
          ∃ rest, (check dumps format).err = dumps.flatMap (fun d => failureOf (result d)) ++ rest ∧
            (check dumps' format).err = dumps'.flatMap (fun d => failureOf (result d)) ++ rest) ∧
        ∀ key, key ≠ "units" → (record dumps).field? key = (record dumps').field? key := by
  intro v result discovered check record printable
  let c := fun dumps => reported files t found.document preset.rules dumps
  have hrecord : ∀ dumps, record dumps = (c dumps).record := fun dumps =>
    congrArg CheckReport.record (reported_eq h dumps).symm
  have hsingle : ∀ {dump}, (files.isFile dump t).1 = true → AllFiles files t [dump] :=
    fun hfile => List.forall_mem_singleton.mpr hfile
  refine ⟨fun paths format => ⟨fun f hf => ?_, fun dumps hdumps => ?_⟩, ?_, ?_, ?_, ?_⟩
  · exact congrArg Prod.fst (run_of_discover_error h hfound hf)
  · have hfiles : AllFiles files t dumps := (reads_discover h _ paths).2 dumps hdumps
    have hrun := run_of_discover h hfound (o := ⟨paths, format, failOn, preset⟩) hdumps
    have hrun' := run_of_allFiles h hfound (o := ⟨dumps, format, failOn, preset⟩) hfiles
    exact ⟨hfiles, congrArg Prod.fst (hrun.trans hrun'.symm)⟩
  · intro dump r hfile hr
    obtain ⟨hunits, hviolations, -⟩ := reported_of_ok h hr
    have hlines : ∀ format, format ≠ .json →
        (check [dump] format).out = r.violations.map (Violation.line format) := by
      intro format hformat
      rw [out_of_allFiles h hfound (hsingle hfile) hformat, hviolations]
    refine ⟨isText_of_analyzeDump h hr, hlines .text nofun, hlines .standalone nofun, ?_⟩
    rw [hrecord, CheckReport.listAt_record, hunits]
    rfl
  · intro dump cause hfile hcause
    obtain ⟨hunits, hviolations, -⟩ := reported_of_error h hcause
    have hlines : ∀ format, format ≠ .json → (check [dump] format).out = [] := by
      intro format hformat
      rw [out_of_allFiles h hfound (hsingle hfile) hformat, hviolations, List.map_nil]
    refine ⟨hlines .text nofun, hlines .standalone nofun, ?_⟩
    rw [hrecord, CheckReport.listAt_record, hunits, List.map_nil]
  · intro dumps hfiles
    have hrun : check dumps .json = (c dumps).outcome .json failOn :=
      congrArg Prod.fst (run_of_allFiles h hfound hfiles)
    refine ⟨out_eq_flatMap h hfound hfiles nofun, out_eq_flatMap h hfound hfiles nofun,
      fun hyes => ?_, fun hno => ?_, ?_, (c dumps).violations,
      out_of_allFiles h hfound hfiles nofun, out_of_allFiles h hfound hfiles nofun, ?_⟩
    · rw [hrun, CheckReport.outcome_json_of_printable (legible_reported h)
        ((printable_reported_iff h).mpr hyes), hrecord]
    · rw [hrun, CheckReport.outcome_json_of_not_printable (mt (printable_reported_iff h).mp hno)]
      exact ⟨rfl, rfl⟩
    · simp only [hrecord]
      exact flatMap_reported h CheckReport.listAt_record_eq_flatMap
    · rw [hrecord, CheckReport.flatMap_listAt_record]
  · intro dumps dumps' hfiles hperm
    have hfiles' : AllFiles files t dumps' :=
      fun dump hdump => hfiles dump (hperm.mem_iff.mpr hdump)
    have hrun : ∀ format, check dumps format = (c dumps).outcome format failOn :=
      fun format => congrArg Prod.fst (run_of_allFiles h hfound hfiles)
    have hrun' : ∀ format, check dumps' format = (c dumps').outcome format failOn :=
      fun format => congrArg Prod.fst (run_of_allFiles h hfound hfiles')
    have hrearranged : CheckReport.Rearranged (c dumps) (c dumps') := rearranged_reported h hperm
    refine ⟨fun format => ⟨?_, ?_⟩, fun key hkey => ?_⟩
    · rw [hrun, hrun']
      exact hrearranged.outcome_status (legible_reported h) (legible_reported h) format failOn
    · rw [hrun, hrun', ← failureLines_reported h, ← failureLines_reported h]
      exact hrearranged.exists_err (legible_reported h) (legible_reported h) format failOn
    · rw [hrecord, hrecord]
      exact hrearranged.field?_record hkey

theorem check_dump_by_dump_of_cut_off_dump :
    let check := fun paths format =>
      (run FileTree.access {} none ⟨paths, format, .error, .all⟩ cutOffDump).1
    let cut : Path := "cut.dump.json"
    let names : Path := "names.dump.json"
    let line := "f.c:0:0: style: Variable n violates naming convention [namingng-namingConvention]"
    (check [cut, names] .text).out = [line] ∧ (check [names, cut] .text).out = [line] ∧
      (check [names, cut] .text).status = (check [cut, names] .text).status ∧
      ∃ record : Json, (check [cut, names] .json).out = [record.pretty] := by
  intro check cut names line
  have hfiles : AllFiles FileTree.access cutOffDump [cut, names] := by
    unfold AllFiles
    decide +kernel
  have hline : (check [names] .text).out = [line] := by
    decide +kernel
  have hcut : (check [cut] .text).out = [] := by
    decide +kernel
  have hfiles' : AllFiles FileTree.access cutOffDump [names, cut] :=
    fun dump hdump => hfiles dump ((List.Perm.swap _ _ _).mem_iff.mp hdump)
  have hloads : (Lookup.load FileTree.access {} none cutOffDump).1.isOk = true := by
    decide +kernel
  generalize hload : (Lookup.load FileTree.access {} none cutOffDump).1 = load at hloads
  cases load with
  | error f => cases hloads
  | ok found =>
  obtain ⟨-, -, -, hmany, horder⟩ :=
    check_dump_by_dump FileTree.access_isReadOnly cutOffDump hload .all .error
  have hjoined : ∀ dump dump', AllFiles FileTree.access cutOffDump [dump, dump'] →
      (check [dump, dump'] .text).out = (check [dump] .text).out ++ (check [dump'] .text).out := by
    intro dump dump' h
    rw [(hmany _ h).1, List.flatMap_cons, List.flatMap_singleton]
  refine ⟨?_, ?_, ((horder _ _ hfiles' (List.Perm.swap _ _ _)).1 .text).1, ?_⟩
  · rw [hjoined cut names hfiles, hcut, hline]
    rfl
  · rw [hjoined names cut hfiles', hcut, hline]
    rfl
  · refine ⟨_, (hmany _ hfiles).2.2.1 fun dump hdump r _ => ?_⟩
    simp only [List.mem_cons, List.not_mem_nil, or_false] at hdump
    rcases hdump with rfl | rfl
    · exact ⟨_, rfl⟩
    · exact ⟨_, rfl⟩

/-- The files of `cutOffDump`, with a dump whose path is no text. -/
def oddNeighbour : FileTree where
  nodes := ([oddDump], .file "\x7b\x7d".toUTF8) :: cutOffDump.nodes

/-- A path that leads nowhere takes the parts of all other dumps with it, and a path that is no
text takes the document with it, which the lines do not mind. -/
theorem report_lost_with_one_path :
    let check := fun paths format =>
      (run FileTree.access {} none ⟨paths, format, .error, .all⟩ oddNeighbour).1
    let gone : Path := "gone.dump.json"
    let names : Path := "names.dump.json"
    let line := "f.c:0:0: style: Variable n violates naming convention [namingng-namingConvention]"
    (check [names] .text).out = [line] ∧
      (check [gone, names] .text).out ≠ (check [gone] .text).out ++ (check [names] .text).out ∧
      (check [oddDump, names] .text).out = [line] ∧ (check [names] .json).out ≠ [] ∧
      (check [oddDump, names] .json).out = [] := by
  decide +kernel

end Check

end Command

end NameLint

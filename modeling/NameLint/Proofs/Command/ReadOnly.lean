/-
A check only looks at the files.

Finding the configuration, finding the dumps and loading them are steps that only look, and
so is a check as a whole.  Whatever it looks at twice is the same both times, and what it
makes of a dump has nothing to do with the dumps before it.
-/
import NameLint.Command.Check
import NameLint.Proofs.Ignore.Walk

namespace NameLint

variable {σ : Type} {t : σ} {files : FileAccess (StateM σ)}

/-! ### Loading dumps -/

theorem SourceFile.reads_withLines (h : files.IsReadOnly) (base : Path) (f : SourceFile) :
    Reads t (f.withLines files base) := by
  unfold withLines
  split
  · exact .pure trivial
  · refine (h.readText t _).bind fun r _ => ?_
    cases r <;> exact .pure trivial

namespace CompilationUnit

theorem reads_withLines (h : files.IsReadOnly) (base : Path) (u : CompilationUnit) :
    Reads t (u.withLines files base) :=
  (Reads.mapM (SourceFile.reads_withLines h base) _).bind fun _ _ => .pure trivial

theorem reads_load (h : files.IsReadOnly) (path : Path) : Reads t (load files path) := by
  refine (h.readText t path).bind fun r _ => ?_
  cases r with
  | error cause => exact .pure trivial
  | ok source =>
      dsimp only
      split
      · exact .pure trivial
      · exact (reads_withLines h _ _).bind fun _ _ => .pure trivial

end CompilationUnit

theorem reads_analyzeDump (h : files.IsReadOnly) (rules : List Rule) (s : Settings)
    (path : Path) : Reads t (analyzeDump files rules s path) :=
  (CompilationUnit.reads_load h path).bind fun _ _ => .pure trivial

namespace Command

/-! ### The configuration -/

namespace Lookup

theorem reads_firstFile? (h : files.IsReadOnly) :
    ∀ places : List (Origin × Path), Reads t (firstFile? files places) := by
  intro places
  induction places with
  | nil => exact .pure trivial
  | cons place rest ih =>
      refine (h.isFile t place.2).bind fun isFile _ => ?_
      cases isFile with
      | true => exact .pure trivial
      | false => exact ih

theorem reads_locate (h : files.IsReadOnly) (s : Surroundings) (given : Option Path) :
    Reads t (locate files s given) := by
  cases given with
  | some path => exact .pure trivial
  | none => exact reads_firstFile? h _

theorem reads_read (h : files.IsReadOnly) (path : Path) : Reads t (read files path) := by
  refine (h.readText t path).bind fun r _ => ?_
  cases r with
  | error cause => exact .pure trivial
  | ok text =>
      dsimp only
      split <;> exact .pure trivial

theorem reads_load (h : files.IsReadOnly) (s : Surroundings) (given : Option Path) :
    Reads t (load files s given) := by
  refine (reads_locate h s given).bind fun place _ => ?_
  cases place with
  | none => exact .pure trivial
  | some place => exact (reads_read h place.2).bind fun _ _ => .pure trivial

end Lookup

/-! ### Finding dumps -/

namespace Check

/-- That all paths in a list lead to files. -/
def AllFiles (files : FileAccess (StateM σ)) (t : σ) (paths : List Path) : Prop :=
  ∀ path ∈ paths, (files.isFile path t).1 = true

theorem reads_dumpsAt (h : files.IsReadOnly) (own : OwnIgnores) (path : Path) :
    Reads t (dumpsAt files own path) fun r => ∀ dumps, r = .ok dumps → AllFiles files t dumps := by
  unfold dumpsAt
  refine (h.isFile t path).given.bind fun isFile hisFile => ?_
  cases isFile with
  | true =>
      refine .pure fun dumps hdumps => ?_
      cases hdumps
      exact List.forall_mem_singleton.mpr hisFile.symm
  | false =>
      refine (Walk.reads_dumps h own path).bind fun r hr => ?_
      cases r with
      | error cause => exact .pure fun dumps hdumps => by cases hdumps
      | ok found =>
          refine .pure fun dumps hdumps => ?_
          cases hdumps
          exact hr found rfl

/-- What is found are files, whether it was named itself or lies below a directory. -/
theorem reads_discover (h : files.IsReadOnly) (own : OwnIgnores) : ∀ paths : List Path,
    Reads t (discover files own paths) fun r =>
      ∀ dumps, r = .ok dumps → AllFiles files t dumps := by
  intro paths
  induction paths with
  | nil =>
      refine .pure fun dumps hdumps => ?_
      cases hdumps
      exact fun path hpath => absurd hpath List.not_mem_nil
  | cons path rest ih =>
      refine (reads_dumpsAt h own path).bind fun r hr => ?_
      cases r with
      | error f => exact .pure fun dumps hdumps => by cases hdumps
      | ok first =>
          refine ih.bind fun r hrest => .pure fun dumps hdumps => ?_
          cases r with
          | error f => cases hdumps
          | ok dumps =>
              cases hdumps
              exact List.forall_mem_append.mpr ⟨hr first rfl, hrest dumps rfl⟩

/-- A file that is named stands for itself. -/
theorem dumpsAt_of_isFile (h : files.IsReadOnly) {own : OwnIgnores} {path : Path}
    (hfile : (files.isFile path t).1 = true) : dumpsAt files own path t = (.ok [path], t) := by
  rw [dumpsAt, (h.isFile t path).run_bind, hfile]
  rfl

theorem discover_of_allFiles (h : files.IsReadOnly) {own : OwnIgnores} :
    ∀ {paths : List Path}, AllFiles files t paths →
      discover files own paths t = (.ok paths, t) := by
  intro paths
  induction paths with
  | nil => exact fun _ => rfl
  | cons path rest ih =>
      intro hfiles
      obtain ⟨hpath, hrest⟩ := List.forall_mem_cons.mp hfiles
      rw [discover, (reads_dumpsAt h own path).run_bind, dumpsAt_of_isFile h hpath]
      show (discover files own rest >>= _) t = _
      rw [(reads_discover h own rest).run_bind, ih hrest]
      rfl

/-! ### Checks -/

/-- A dump has its result whatever other dumps there are. -/
theorem examine_eq (h : files.IsReadOnly) (document : Config.Document) (rules : List Rule)
    (dumps : List Path) :
    let v := Config.validate document
    examine files document rules dumps t = (⟨v.diagnostics, dumps.map fun dump =>
      ⟨dump, (analyzeDump files rules v.settings dump t).1⟩⟩, t) := by
  intro v
  have hdump : ∀ dump, Reads t (do
      return (⟨dump, ← analyzeDump files rules v.settings dump⟩ : DumpResult) : StateM σ _) :=
    fun dump => (reads_analyzeDump h rules v.settings dump).bind fun _ _ => .pure trivial
  rw [examine, (Reads.mapM hdump dumps).run_bind, Reads.run_mapM hdump]
  rfl

theorem reads_examine (h : files.IsReadOnly) (document : Config.Document) (rules : List Rule)
    (dumps : List Path) : Reads t (examine files document rules dumps) := by
  rw [Reads, examine_eq h]
  exact ⟨rfl, trivial⟩

/-- **A check leaves all files as they are.** -/
theorem reads_run (h : files.IsReadOnly) (s : Surroundings) (config : Option Path)
    (o : CheckOptions) : Reads t (run files s config o) := by
  refine (Lookup.reads_load h s config).bind fun r _ => ?_
  cases r with
  | error f => exact .pure trivial
  | ok found =>
      refine (OwnIgnores.reads_load h s.user).bind fun own _ => ?_
      refine (reads_discover h own o.paths).bind fun r _ => ?_
      cases r with
      | error f => exact .pure trivial
      | ok dumps => exact (reads_examine h _ _ dumps).bind fun _ _ => .pure trivial

/-! ### What is reported -/

/-- What a check of dumps reports, on files in state `t`. -/
def reported (files : FileAccess (StateM σ)) (t : σ) (document : Config.Document)
    (rules : List Rule) (dumps : List Path) : CheckReport :=
  (examine files document rules dumps t).1

theorem reported_eq (h : files.IsReadOnly) {document : Config.Document} {rules : List Rule}
    (dumps : List Path) :
    let v := Config.validate document
    reported files t document rules dumps = ⟨v.diagnostics, dumps.map fun dump =>
      ⟨dump, (analyzeDump files rules v.settings dump t).1⟩⟩ :=
  congrArg Prod.fst (examine_eq h document rules dumps)

section Runs

variable (h : files.IsReadOnly) {s : Surroundings} {config : Option Path} {o : CheckOptions}
  {found : Lookup.Found} (hfound : (Lookup.load files s config t).1 = .ok found)
include h hfound

theorem run_of_found : run files s config o t = (do
    match ← discover files (OwnIgnores.load files s.user t).1 o.paths with
    | .error f => return f.outcome
    | .ok dumps =>
      return (← examine files found.document o.preset.rules dumps).outcome
        o.format o.failOn) t := by
  rw [run, (Lookup.reads_load h s config).run_bind, hfound]
  exact (OwnIgnores.reads_load h s.user).run_bind _

/-- A check that cannot find its dumps says so, and nothing else. -/
theorem run_of_discover_error {f : Failure}
    (hdumps : (discover files (OwnIgnores.load files s.user t).1 o.paths t).1 = .error f) :
    run files s config o t = (f.outcome, t) := by
  rw [run_of_found h hfound, (reads_discover h _ o.paths).run_bind, hdumps]
  rfl

/-- A check for which the configuration and the dumps are found reports on these dumps. -/
theorem run_of_discover {dumps : List Path}
    (hdumps : (discover files (OwnIgnores.load files s.user t).1 o.paths t).1 = .ok dumps) :
    run files s config o t
      = ((reported files t found.document o.preset.rules dumps).outcome o.format o.failOn, t) := by
  rw [run_of_found h hfound, (reads_discover h _ o.paths).run_bind, hdumps]
  show (examine files _ _ dumps >>= _) t = _
  rw [(reads_examine h _ _ dumps).run_bind]
  rfl

theorem run_of_allFiles (hfiles : AllFiles files t o.paths) : run files s config o t
    = ((reported files t found.document o.preset.rules o.paths).outcome o.format o.failOn, t) :=
  run_of_discover h hfound (congrArg Prod.fst (discover_of_allFiles h hfiles))

end Runs

end Check

end Command

end NameLint

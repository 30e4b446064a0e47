/-
Lines read from files count like lines written in the dump.

A file of a dump may come without its lines, which are then read from the file itself.
`Filled` says what becomes of one file: it stays as it is if its lines are given or if it
cannot be read, and otherwise it gets the lines of the text at its path.  Reading leaves all
files as they are, so a second time there is nothing left to find.

What rules see is the unit with these lines in it, and a unit does not tell where its lines
come from.  So a dump with the lines written in it is judged the same, wherever it lies, as
long as what could not be read cannot be read from there either.
-/
import Mathlib.Data.List.Forall2
import NameLint.Proofs.Command.ReadOnly
import NameLint.Proofs.Dump.RoundTrip

namespace NameLint

open Json (Spells)

variable {σ : Type} {files : FileAccess (StateM σ)} {t : σ} {base : Path}

/-! ### One file -/

namespace SourceFile

variable {f g : SourceFile}

/-- The path of a file, seen from a directory unless it starts at the root. -/
def resolved (base : Path) (f : SourceFile) : Path :=
  if Path.isAbsolute f.path then f.path else Path.join base f.path

/-- What becomes of a file when absent lines are read. -/
inductive Filled (files : FileAccess (StateM σ)) (t : σ) (base : Path) :
    SourceFile → SourceFile → Prop
  /-- The lines are given. -/
  | given {f : SourceFile} {lines : List String} (hlines : f.lines = some lines) :
      Filled files t base f f
  /-- The lines are absent and can be read. -/
  | found {f : SourceFile} {text : String} (habsent : f.lines = none)
      (hread : (files.readText (f.resolved base) t).1 = .ok text) :
      Filled files t base f { f with lines := some (Text.linesOf text) }
  /-- The lines are absent and cannot be read. -/
  | unreadable {f : SourceFile} {cause : FileError} (habsent : f.lines = none)
      (hread : (files.readText (f.resolved base) t).1 = .error cause) :
      Filled files t base f f

/-- That a file has its lines, or cannot be read. -/
def IsSettled (files : FileAccess (StateM σ)) (t : σ) (base : Path) (f : SourceFile) : Prop :=
  f.lines = none → ∃ cause, (files.readText (f.resolved base) t).1 = .error cause

theorem join_eq_resolved (base : Path) (f : SourceFile) :
    Path.join base f.path = f.resolved base := by
  unfold resolved
  split
  · rename_i habsolute
    rw [Path.join, habsolute, Bool.true_or, if_pos rfl]
  · rfl

theorem withLines_of_lines {lines : List String} (hlines : f.lines = some lines) :
    f.withLines files base t = (f, t) := by
  simp only [withLines, hlines]
  rfl

/-- A file whose lines are absent is read. -/
theorem withLines_of_absent (h : files.IsReadOnly) (habsent : f.lines = none) :
    f.withLines files base t = (match (files.readText (f.resolved base) t).1 with
      | .ok text => { f with lines := some (Text.linesOf text) }
      | .error _ => f, t) := by
  simp only [withLines, habsent, join_eq_resolved]
  rw [(h.readText t _).run_bind]
  cases (files.readText (f.resolved base) t).1 <;> rfl

theorem filled_withLines (h : files.IsReadOnly) (f : SourceFile) :
    Filled files t base f (f.withLines files base t).1 := by
  cases hlines : f.lines with
  | some lines =>
      rw [withLines_of_lines hlines]
      exact .given hlines
  | none =>
      rw [withLines_of_absent h hlines]
      cases hread : (files.readText (f.resolved base) t).1 with
      | ok text => exact .found hlines hread
      | error cause => exact .unreadable hlines hread

theorem Filled.path_eq (h : Filled files t base f g) : g.path = f.path := by
  cases h <;> rfl

theorem Filled.isSettled (h : Filled files t base f g) : g.IsSettled files t base := by
  cases h with
  | given hlines => exact fun habsent => by rw [hlines] at habsent; cases habsent
  | found => exact nofun
  | unreadable _ hread => exact fun _ => ⟨_, hread⟩

theorem withLines_of_isSettled (h : files.IsReadOnly) (hsettled : f.IsSettled files t base) :
    f.withLines files base t = (f, t) := by
  cases hlines : f.lines with
  | some lines => exact withLines_of_lines hlines
  | none =>
      obtain ⟨cause, hread⟩ := hsettled hlines
      rw [withLines_of_absent h hlines, hread]

end SourceFile

/-! ### Units -/

namespace CompilationUnit

open SourceFile (Filled)

variable {u : CompilationUnit}

/-- That every file of a unit has its lines, or cannot be read. -/
def IsSettled (files : FileAccess (StateM σ)) (t : σ) (base : Path) (u : CompilationUnit) : Prop :=
  ∀ f ∈ u.files, f.IsSettled files t base

theorem run_withLines (h : files.IsReadOnly) (u : CompilationUnit) : u.withLines files base t
    = ({ u with files := u.files.map fun f => (f.withLines files base t).1 }, t) := by
  have hfile : ∀ f : SourceFile, Reads t (f.withLines files base) :=
    SourceFile.reads_withLines h base
  rw [withLines, (Reads.mapM hfile u.files).run_bind, Reads.run_mapM hfile]
  rfl

theorem filled_withLines (h : files.IsReadOnly) (u : CompilationUnit) :
    List.Forall₂ (Filled files t base) u.files (u.withLines files base t).1.files := by
  rw [run_withLines h]
  exact List.forall₂_map_right_iff.mpr
    (List.forall₂_same.mpr fun f _ => SourceFile.filled_withLines h f)

theorem isSettled_withLines (h : files.IsReadOnly) (u : CompilationUnit) :
    IsSettled files t base (u.withLines files base t).1 := by
  intro g hg
  rw [run_withLines h] at hg
  obtain ⟨f, -, rfl⟩ := List.mem_map.mp hg
  exact (SourceFile.filled_withLines h f).isSettled

theorem withLines_of_isSettled (h : files.IsReadOnly) (hsettled : u.IsSettled files t base) :
    u.withLines files base t = (u, t) := by
  have hfile : ∀ f ∈ u.files, (f.withLines files base t).1 = id f := fun f hf => by
    rw [SourceFile.withLines_of_isSettled h (hsettled f hf), id]
  rw [run_withLines h, List.map_congr_left hfile, List.map_id]

/-! ### Dumps -/

theorem paths_withLines (h : files.IsReadOnly) (u : CompilationUnit) :
    (u.withLines files base t).1.paths = u.paths := by
  have hfiles : (u.files.map fun f => (f.withLines files base t).1).map SourceFile.path
      = u.files.map SourceFile.path := by
    rw [List.map_map]
    exact List.map_congr_left fun f _ => (SourceFile.filled_withLines h f).path_eq
  rw [run_withLines h, paths, hfiles]
  rfl

/-- The lines of its files are of no account for how a unit is written and read back. -/
theorem exists_spells_withLines (h : files.IsReadOnly) {source : String}
    (hparse : parse source = .ok u) :
    let inlined := (u.withLines files base t).1
    ∃ record, inlined.toJson = .ok record ∧
      ∀ cs, Spells record cs → parse (String.ofList cs) = .ok inlined := by
  intro inlined
  have hlegible := legible_of_parse hparse
  have hinlined : inlined = { u with files := u.files.map fun f => (f.withLines files base t).1 } :=
    congrArg Prod.fst (run_withLines h u)
  have hfits : inlined.Fits := by
    rw [hinlined]
    exact { hlegible.fits with }
  have hcanonical : inlined.canonicalized = inlined := by
    have hfiles : ∀ fs, ({ u with files := fs } : CompilationUnit).canonicalized
        = { u.canonicalized with files := fs } := fun _ => rfl
    rw [hinlined, hfiles, canonicalized_of_parse hparse]
  obtain ⟨record, hrecord⟩ : ∃ record, inlined.toJson = .ok record := by
    rw [exists_toJson_iff, paths_withLines h]
    exact hlegible.isText
  refine ⟨record, hrecord, fun cs hcs => ?_⟩
  rw [parse_of_spells hfits hrecord hcs, hcanonical]

theorem load_of_parse (h : files.IsReadOnly) {path : Path} {source : String}
    (hread : (files.readText path t).1 = .ok source) (hparse : parse source = .ok u) :
    (load files path t).1 = .ok (u.withLines files (Path.parent path) t).1 := by
  rw [load, (h.readText t path).run_bind, hread]
  simp only [hparse]
  rfl

end CompilationUnit

theorem analyzeDump_of_parse (h : files.IsReadOnly) {path : Path} {source : String}
    {u : CompilationUnit}    (hread : (files.readText path t).1 = .ok source)
    (hparse : CompilationUnit.parse source = .ok u) (rules : List Rule) (s : Settings) :
    (analyzeDump files rules s path t).1
      = .ok (analyze rules s (u.withLines files (Path.parent path) t).1) := by
  rw [analyzeDump, (CompilationUnit.reads_load h path).run_bind,
    CompilationUnit.load_of_parse h hread hparse]
  rfl

/--
**Lines in a dump and lines on disk are checked alike.**  Reading absent lines changes nothing
but these lines: every file becomes what `Filled` says of it, in place, all else stays, and a
second time there is nothing to read.

A dump is judged as the unit with these lines in it.  That unit has a record, and every spelling
of it is read as that unit; and a dump that holds it is judged like the first one wherever it
lies, if the files that are still without lines cannot be read from there.
-/
theorem inlined_judged_alike (h : files.IsReadOnly) (t : σ) :
    (∀ (base : Path) (u : CompilationUnit),
      let filled := (u.withLines files base t).1
      (u.withLines files base t).2 = t ∧ filled = { u with files := filled.files } ∧
        List.Forall₂ (SourceFile.Filled files t base) u.files filled.files ∧
        filled.withLines files base t = (filled, t)) ∧
    ∀ (rules : List Rule) (s : Settings) (path : Path) (source : String) (u : CompilationUnit),
      (files.readText path t).1 = .ok source → CompilationUnit.parse source = .ok u →
      let inlined := (u.withLines files (Path.parent path) t).1
      (analyzeDump files rules s path t).1 = .ok (analyze rules s inlined) ∧
        (∃ record, inlined.toJson = .ok record ∧ ∀ cs, Spells record cs →
          CompilationUnit.parse (String.ofList cs) = .ok inlined) ∧
        ∀ (t' : σ) (path' : Path) (source' : String), (files.readText path' t').1 = .ok source' →
          CompilationUnit.parse source' = .ok inlined →
          inlined.IsSettled files t' (Path.parent path') →
          (analyzeDump files rules s path' t').1 = (analyzeDump files rules s path t).1 := by
  constructor
  · intro base u filled
    exact ⟨(CompilationUnit.reads_withLines h base u).1, rfl, CompilationUnit.filled_withLines h u,
      CompilationUnit.withLines_of_isSettled h (CompilationUnit.isSettled_withLines h u)⟩
  · intro rules s path source u hread hparse inlined
    have hjudged := analyzeDump_of_parse h hread hparse rules s
    refine ⟨hjudged, CompilationUnit.exists_spells_withLines h hparse,
      fun t' path' source' hread' hparse' hsettled => ?_⟩
    rw [hjudged, analyzeDump_of_parse h hread' hparse' rules s,
      CompilationUnit.withLines_of_isSettled h hsettled]

/-- A unit with a file of each kind: its lines given, absent, absent at a path from the root, and
not to be read because it is no text. -/
def mixedUnit : CompilationUnit where
  files := [⟨"given.c", some ["int n;"]⟩, ⟨"near.h", none⟩, ⟨"/far.h", none⟩, ⟨"odd.h", none⟩]
  vars := [⟨"n", "int", .global, ⟨"given.c", 1, 5⟩⟩]

/-- The same unit with the lines that can be read. -/
def mixedUnitInlined : CompilationUnit where
  files := [⟨"given.c", some ["int n;"]⟩, ⟨"near.h", some ["#ifndef NEAR_H", ""]⟩,
    ⟨"/far.h", some ["int far;"]⟩, ⟨"odd.h", none⟩]
  vars := [⟨"n", "int", .global, ⟨"given.c", 1, 5⟩⟩]

/-- The text of the record of a unit, empty if it has none. -/
def CompilationUnit.written (u : CompilationUnit) : String :=
  (u.toJson.toOption.map Json.compact).getD ""

/-- The files of the unit, with a dump next to them and one with the lines in it further up. -/
def mixedFiles : FileTree where
  nodes := [(["src"], .directory), (["src", "near.h"], .file "#ifndef NEAR_H\r\n\n".toUTF8),
    (["far.h"], .file "int far;".toUTF8), (["src", "odd.h"], .file ⟨#[0xff]⟩),
    (["src", "unit.json"], .file mixedUnit.written.toUTF8),
    (["inlined.json"], .file mixedUnitInlined.written.toUTF8)]

theorem inlined_judged_alike_of_mixed_files :
    FileTree.access.IsReadOnly ∧
      (mixedUnit.withLines FileTree.access "src" mixedFiles).1 = mixedUnitInlined ∧
      mixedUnitInlined.withLines FileTree.access "src" mixedFiles = (mixedUnitInlined, mixedFiles) ∧
      ∀ (rules : List Rule) (s : Settings),
        (analyzeDump FileTree.access rules s "inlined.json" mixedFiles).1
          = (analyzeDump FileTree.access rules s "src/unit.json" mixedFiles).1 := by
  have hinlined : (mixedUnit.withLines FileTree.access "src" mixedFiles).1 = mixedUnitInlined := by
    decide +kernel
  have hreparse : ∀ u : CompilationUnit, u.Fits → (∀ path ∈ u.paths, path.IsText) →
      u.canonicalized = u → CompilationUnit.parse u.written = .ok u := by
    intro u hfits hpaths hcanonical
    obtain ⟨record, hrecord⟩ := CompilationUnit.exists_toJson_iff.mpr hpaths
    have hparse := CompilationUnit.parse_of_spells hfits hrecord (Json.spells_compactChars record)
    rw [hcanonical] at hparse
    rwa [CompilationUnit.written, hrecord]
  have hparse : CompilationUnit.parse mixedUnit.written = .ok mixedUnit :=
    hreparse _ ⟨by decide, by decide, by decide, by decide⟩
      (by simp [CompilationUnit.paths, mixedUnit]) (by decide +kernel)
  have hparse' : CompilationUnit.parse mixedUnitInlined.written = .ok mixedUnitInlined :=
    hreparse _ ⟨by decide, by decide, by decide, by decide⟩
      (by simp [CompilationUnit.paths, mixedUnitInlined]) (by decide +kernel)
  have hread : (FileTree.access.readText "src/unit.json" mixedFiles).1
      = .ok mixedUnit.written := FileTree.readText_of_read rfl
  have hread' : (FileTree.access.readText "inlined.json" mixedFiles).1
      = .ok mixedUnitInlined.written := FileTree.readText_of_read rfl
  have hbase : Path.parent "src/unit.json" = "src" := by decide +kernel
  have hsettled : mixedUnitInlined.IsSettled FileTree.access mixedFiles
      (Path.parent "inlined.json") := by
    intro f hf habsent
    simp only [mixedUnitInlined, List.mem_cons, List.not_mem_nil, or_false] at hf
    rcases hf with rfl | rfl | rfl | rfl
    · cases habsent
    · cases habsent
    · cases habsent
    · exact ⟨.notFound, by decide +kernel⟩
  obtain ⟨hframe, hdump⟩ := inlined_judged_alike FileTree.access_isReadOnly mixedFiles
  have hagain := (hframe "src" mixedUnit).2.2.2
  rw [hinlined] at hagain
  refine ⟨FileTree.access_isReadOnly, hinlined, hagain, fun rules s => ?_⟩
  have hjudged := (hdump rules s _ _ _ hread hparse).2.2
  rw [hbase, hinlined] at hjudged
  exact hjudged mixedFiles _ _ hread' hparse' hsettled

end NameLint

/-
What a walk finds.

Loading ignore files and walking directories only look at the files, and every path that a
walk gives leads to a file.  The latter is an invariant of the walk: on whatever level it
is, it takes names only if there is a file at their path, or hands on what a deeper level
has taken.
-/
import NameLint.Ignore.Walk
import NameLint.Proofs.File.Reads

namespace NameLint

variable {σ : Type} {t : σ} {files : FileAccess (StateM σ)}

/-! ### Ignore files -/

namespace IgnoreLevel

theorem reads_loadFile (h : files.IsReadOnly) (path : Path) :
    Reads t (loadFile files path) := by
  refine (h.read t path).bind fun r _ => ?_
  cases r <;> exact .pure trivial

theorem reads_firstLine? (h : files.IsReadOnly) (path : Path) :
    Reads t (firstLine? files path) := by
  refine (h.readText t path).bind fun r _ => ?_
  cases r <;> exact .pure trivial

theorem reads_dataDirectory? (h : files.IsReadOnly) (directory : Path) :
    Reads t (dataDirectory? files directory) := by
  refine (h.isFile t _).bind fun isFile _ => ?_
  cases isFile with
  | false => exact .pure trivial
  | true =>
      refine (reads_firstLine? h _).bind fun line _ => ?_
      split
      · refine (reads_firstLine? h _).bind fun shared _ => ?_
        cases shared <;> exact .pure trivial
      · exact .pure trivial

theorem reads_load (h : files.IsReadOnly) (directory : Path) (depth : Nat) :
    Reads t (load files directory depth) := by
  refine (reads_loadFile h _).bind fun plain _ => (reads_loadFile h _).bind fun shared _ =>
    (Reads.anyM (fun name => h.isPresent t _) _).bind fun isTop _ =>
    (reads_dataDirectory? h directory).bind fun place _ => ?_
  cases place with
  | none => exact .pure trivial
  | some place => exact (reads_loadFile h _).bind fun excluded _ => .pure trivial

end IgnoreLevel

namespace OwnIgnores

theorem reads_pathInFile? (h : files.IsReadOnly) (path : Option Path) :
    Reads t (pathInFile? files path) := by
  cases path with
  | none => exact .pure trivial
  | some path =>
      refine (h.readText t path).bind fun r _ => ?_
      cases r <;> exact .pure trivial

theorem reads_path? (h : files.IsReadOnly) (u : UserDirectories) :
    Reads t (path? files u) := by
  refine (reads_pathInFile? h _).bind fun first _ => ?_
  cases first with
  | some path => exact .pure trivial
  | none =>
      refine (reads_pathInFile? h _).bind fun second _ => ?_
      cases second <;> exact .pure trivial

theorem reads_load (h : files.IsReadOnly) (u : UserDirectories) :
    Reads t (load files u) := by
  refine (h.canonical t ".").bind fun current _ => ?_
  refine (reads_path? h u).bind fun path _ => ?_
  cases path with
  | none => exact .pure trivial
  | some path => exact (IgnoreLevel.reads_loadFile h path).bind fun file _ => .pure trivial

end OwnIgnores

/-! ### Walks -/

namespace Walk

variable {own : OwnIgnores} {base : List Path} {root : Path}

/-- That all names in a list lead from the start of a walk to files. -/
def AllLead (files : FileAccess (StateM σ)) (t : σ) (root : Path)
    (found : List (List Path)) : Prop :=
  ∀ names ∈ found, (files.isFile (Path.join root (Path.ofComponents names)) t).1 = true

theorem AllLead.nil : AllLead files t root [] := fun _ h => absurd h List.not_mem_nil

theorem AllLead.flatten {found : List (List (List Path))}
    (h : ∀ l ∈ found, AllLead files t root l) : AllLead files t root found.flatten := by
  intro names hnames
  obtain ⟨l, hl, hmem⟩ := List.mem_flatten.mp hnames
  exact h l hl names hmem

theorem tryReads_dumpsBelow (h : files.IsReadOnly) :
    ∀ (fuel : Nat) (levels : List IgnoreLevel) (below : List Path),
      TryReads t (dumpsBelow files own base root fuel levels below) (AllLead files t root) := by
  intro fuel
  induction fuel with
  | zero => exact fun levels below => .pure .nil
  | succ fuel ih =>
      intro levels below
      unfold dumpsBelow
      extract_lets pathOf directory
      have hpath : ∀ name, pathOf (below ++ [name])
          = Path.join root (Path.ofComponents (below ++ [name])) :=
        fun name => if_neg (by simp)
      refine TryReads.bind (.lift (h.list t _)) fun entries _ => ?_
      cases entries with
      | error cause => exact TryReads.throw_bind _ _
      | ok entries =>
      refine TryReads.bind (p := fun _ => True) (.pure trivial) fun entries _ => ?_
      refine TryReads.bind (.lift (IgnoreLevel.reads_load h _ _)) fun level _ => ?_
      refine TryReads.bind (.mapM (q := AllLead files t root) (fun entry => ?_) _)
        fun found hfound => .pure (.flatten hfound)
      obtain ⟨name, kind⟩ := entry
      dsimp only
      -- an entry is passed over, walked, or taken for what stands at its path
      split
      · exact .pure .nil
      split
      · exact ih _ _
      refine TryReads.bind (.lift (h.isFile t _).given) fun isFile hisFile => ?_
      split
      · rename_i hdump
        refine .pure (List.forall_mem_singleton.mpr ?_)
        rw [← hpath, ← hisFile]
        exact (Bool.and_eq_true_iff.mp hdump).2
      · exact .pure .nil

theorem tryReads_levelsAbove (h : files.IsReadOnly) (place : List Path) :
    TryReads t (levelsAbove files place) := by
  refine TryReads.foldlM (fun levels n => ?_) _ _
  refine TryReads.bind (.lift (IgnoreLevel.reads_load h _ _)) fun level _ => ?_
  split
  · exact TryReads.throw_bind _ _
  · exact .pure trivial

/-- What a walk finds are files. -/
theorem reads_dumps (h : files.IsReadOnly) (own : OwnIgnores) (root : Path) :
    Reads t (dumps files own root) fun r =>
      ∀ found, r = .ok found → ∀ path ∈ found, (files.isFile path t).1 = true := by
  unfold dumps
  split
  · exact .pure fun found hfound path hpath => by cases hfound; exact absurd hpath List.not_mem_nil
  refine (h.kind t root).bind fun kind _ => (h.canonical t root).bind fun base _ => ?_
  split
  · exact .pure fun found hfound => by cases hfound
  · exact .pure fun found hfound => by cases hfound
  · refine TryReads.bind (tryReads_levelsAbove h _) fun above _ => ?_
    refine TryReads.bind (tryReads_dumpsBelow h _ above []) fun found hfound => .pure ?_
    intro path hpath
    obtain ⟨names, hnames, rfl⟩ := List.mem_map.mp hpath
    exact hfound names (List.mem_mergeSort.mp hnames)
  · exact .pure fun found hfound path hpath => by cases hfound; exact absurd hpath List.not_mem_nil

end Walk

end NameLint

/-
No key stands in a document twice.

Most edits of a table only add keys that are not taken.  The one that does not look is the
last one of a table with a header: when the next header opens another table, it is put at
the end of the entries around it.  What makes this right is that its place has been free
since its own header was read, and so the place of the current table is part of the
invariant of the draft.

Only the keys at the top of a document are followed here.  An edit further down a path
leaves them as they are, or adds the first key of the path if it is not there.
-/
import NameLint.Proofs.Toml.Below

namespace NameLint.Toml

/-! ### Tables under construction -/

namespace Entries

variable {entries edited : Entries} {key : String} {item : Item}

/-- That no key stands in a table twice. -/
def Distinct (entries : Entries) : Prop :=
  (entries.map Prod.fst).Nodup

theorem not_mem_of_lookup (h : entries.lookup key = none) : key ∉ entries.map Prod.fst := by
  intro hmem
  obtain ⟨e, he, rfl⟩ := List.mem_map.mp hmem
  have hne := List.lookup_eq_none_iff.mp h e he
  simp at hne

theorem Distinct.concat (h : Distinct entries) (hfree : entries.lookup key = none) :
    Distinct (entries ++ [(key, item)]) := by
  rw [Distinct, List.map_append, List.map_singleton, List.nodup_append]
  refine ⟨h, List.pairwise_singleton _ _, ?_⟩
  rintro k hk k' hk' rfl
  rw [List.mem_singleton.mp hk'] at hk
  exact not_mem_of_lookup hfree hk

/-- A value that is put in place of another one leaves the keys as they are. -/
theorem keys_putEntry {old : Item} (h : entries.lookup key = some old) :
    (putEntry key item entries).map Prod.fst = entries.map Prod.fst := by
  induction entries with
  | nil => cases h
  | cons e rest ih =>
      obtain ⟨k, v⟩ := e
      by_cases hk : k = key
      · simp [putEntry, hk]
      · have hne : (key == k) = false := beq_eq_false_iff_ne.mpr (Ne.symm hk)
        rw [List.lookup_cons, hne] at h
        simp [putEntry, hk, ih h]

theorem Distinct.put {old : Item} (h : Distinct entries) (hold : entries.lookup key = some old) :
    Distinct (putEntry key item entries) := by
  rw [Distinct, keys_putEntry hold]
  exact h

theorem lookup_filter_ne : (entries.filter fun e => e.1 ≠ key).lookup key = none := by
  rw [List.lookup_eq_none_iff]
  intro e he
  have hne : e.1 ≠ key := of_decide_eq_true (List.mem_filter.mp he).2
  simp [Ne.symm hne]

end Entries

/-- An edit keeps the keys of a table distinct if it does so at the table itself. -/
theorem distinct_within {α : Type} {made : Origin} {edit : Origin → Entries → Option (Entries × α)}
    {path : List String} {here : Origin} {entries edited : Entries} {a : α}
    (hentries : entries.Distinct)
    (hhere : path = [] → edit here entries = some (edited, a) → edited.Distinct)
    (h : within made edit path here entries = some (edited, a)) : edited.Distinct := by
  cases path with
  | nil => exact hhere rfl h
  | cons key path =>
      unfold within at h
      split at h
      · rename_i hfree
        obtain ⟨inner, -, hrest⟩ := Option.bind_eq_some_iff.mp h
        cases hrest
        exact hentries.concat hfree
      · cases h
      · rename_i hold
        split at h
        · cases h
        · obtain ⟨inner, -, hrest⟩ := Option.bind_eq_some_iff.mp h
          cases hrest
          exact hentries.put hold
      · rename_i hold
        split at h
        · cases h
        · obtain ⟨inner, -, hrest⟩ := Option.bind_eq_some_iff.mp h
          cases hrest
          exact hentries.put hold

theorem distinct_assigned {path : List String} {key : String} {item : Item}
    {entries edited : Entries} (hentries : entries.Distinct)
    (h : assigned path key item entries = some edited) : edited.Distinct := by
  obtain ⟨⟨result, a⟩, hresult, rfl⟩ := Option.map_eq_some_iff.mp h
  refine distinct_within hentries (fun _ hassign => ?_) hresult
  unfold assign at hassign
  split at hassign
  · rename_i hfree
    cases hassign
    exact hentries.concat (Option.not_isSome_iff_eq_none.mp hfree.2)
  · cases hassign

/-! ### Drafts -/

namespace Draft

/-- That no key stands twice at the top of a document, and that none will when the current
table goes to its place. -/
structure Distinct (d : Draft) : Prop where
  /-- The keys of the document without the current table. -/
  root : d.root.Distinct
  /-- The keys of the current table, if it is the top itself. -/
  current : d.place = .top → d.current.Distinct
  /-- The place of the current table is free. -/
  free : ∀ key, d.place = .table [] key → d.root.lookup key = none

theorem distinct_closed {d : Draft} (h : d.Distinct) {entries : Entries}
    (hclosed : d.closed = some entries) : entries.Distinct := by
  unfold closed at hclosed
  split at hclosed
  · rename_i hplace
    cases hclosed
    exact h.current hplace
  · rename_i path key hplace
    obtain ⟨⟨result, a⟩, hresult, rfl⟩ := Option.map_eq_some_iff.mp hclosed
    refine distinct_within h.root (fun hpath hpush => ?_) hresult
    subst hpath
    cases hpush
    exact h.root.concat (h.free key hplace)
  · obtain ⟨⟨result, a⟩, hresult, rfl⟩ := Option.map_eq_some_iff.mp hclosed
    refine distinct_within h.root (fun _ hpush => ?_) hresult
    unfold pushElement at hpush
    split at hpush
    · rename_i hfree
      cases hpush
      exact h.root.concat hfree
    · rename_i hold
      cases hpush
      exact h.root.put hold
    · cases hpush

/-- What is left when a header has taken out its table is free for it. -/
theorem distinct_takeTable {key : String} {here : Origin} {entries edited inner : Entries}
    (hentries : entries.Distinct) (h : takeTable key here entries = some (edited, inner)) :
    edited.Distinct ∧ edited.lookup key = none := by
  unfold takeTable at h
  split at h
  · rename_i hfree
    cases h
    exact ⟨hentries, hfree⟩
  · cases h
    refine ⟨?_, Entries.lookup_filter_ne⟩
    exact hentries.sublist (List.filter_sublist.map Prod.fst)
  · cases h

theorem distinct_add {d d' : Draft} {s : Statement} (h : d.Distinct) (hadd : d.add s = some d') :
    d'.Distinct := by
  cases s with
  | assignment path key v =>
      obtain ⟨current, hcurrent, hd⟩ := Option.bind_eq_some_iff.mp hadd
      cases hd
      exact ⟨h.root, fun hplace => distinct_assigned (h.current hplace) hcurrent, h.free⟩
  | table path key =>
      obtain ⟨root, hroot, hd⟩ := Option.bind_eq_some_iff.mp hadd
      obtain ⟨⟨edited, current⟩, hedit, hd⟩ := Option.bind_eq_some_iff.mp hd
      cases hd
      have hentries := distinct_closed h hroot
      refine ⟨?_, nofun, ?_⟩
      · exact distinct_within hentries (fun _ htake => (distinct_takeTable hentries htake).1) hedit
      · rintro _ ⟨⟩
        exact (distinct_takeTable hentries hedit).2
  | element path key =>
      obtain ⟨root, hroot, hd⟩ := Option.bind_eq_some_iff.mp hadd
      cases hd
      exact ⟨distinct_closed h hroot, nofun, nofun⟩

theorem distinct_foldlM {ss : List Statement} {d d' : Draft} (h : d.Distinct)
    (hfold : ss.foldlM add d = some d') : d'.Distinct := by
  induction ss generalizing d with
  | nil =>
      cases hfold
      exact h
  | cons s rest ih =>
      rw [List.foldlM_cons] at hfold
      obtain ⟨next, hnext, hfold⟩ := Option.bind_eq_some_iff.mp hfold
      exact ih (distinct_add h hnext) hfold

end Draft

/-- **The keys of a document are distinct.** -/
theorem nodup_keys_of_parse {source : String} {entries : List (String × Value)}
    (h : parse source = some entries) : (entries.map Prod.fst).Nodup := by
  obtain ⟨ss, -, h⟩ := Option.bind_eq_some_iff.mp h
  obtain ⟨draft, hdraft, h⟩ := Option.bind_eq_some_iff.mp h
  obtain ⟨root, hroot, h⟩ := Option.bind_eq_some_iff.mp h
  cases h
  have hempty : ({} : Draft).Distinct := ⟨List.nodup_nil, fun _ => List.nodup_nil, nofun⟩
  have hdistinct := Draft.distinct_closed (Draft.distinct_foldlM hempty hdraft) hroot
  rwa [entryValues_eq_map, List.map_map]

end NameLint.Toml

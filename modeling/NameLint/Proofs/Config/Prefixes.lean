/-
Prefix tables as they are written.

A configuration holds a prefix table as a dictionary from types to prefixes.  Two
spellings of one type are two keys of the dictionary but one key of the table, and the
entry that stands last is the one that counts: `find?_ofList` looks a type up from the
end.  `variablePrefixes_of_mem` and `functionPrefixes_of_mem` follow a dictionary from its
place in a document into the settings.
-/
import Mathlib.Data.List.Induction
import NameLint.Proofs.Config.Locality

namespace NameLint

/-! ### Entries with keys -/

section Entries

variable {α : Type}

theorem lookup_cons_of_ne {key other : String} (h : other ≠ key) (value : α)
    (entries : List (String × α)) :
    ((key, value) :: entries).lookup other = entries.lookup other := by
  rw [List.lookup_cons, beq_eq_false_iff_ne.mpr h]

theorem lookup_putEntry (key : String) (value : α) (entries : List (String × α)) (other : String) :
    (putEntry key value entries).lookup other
      = if other = key then some value else entries.lookup other := by
  induction entries with
  | nil =>
      split
      · rename_i h
        rw [h, putEntry, List.lookup_cons_self]
      · rename_i h
        rw [putEntry, lookup_cons_of_ne h]
  | cons p rest ih =>
      obtain ⟨k, v⟩ := p
      unfold putEntry
      by_cases hk : k = key
      · rw [if_pos hk, hk]
        split
        · rename_i h
          rw [h, List.lookup_cons_self]
        · rename_i h
          rw [lookup_cons_of_ne h, lookup_cons_of_ne h]
      · rw [if_neg hk]
        by_cases ho : other = k
        · rw [ho, List.lookup_cons_self, List.lookup_cons_self, if_neg hk]
        · rw [lookup_cons_of_ne ho, lookup_cons_of_ne ho, ih]

/-- A later value for a key takes the place of an earlier one. -/
theorem lookup_entriesOf (pairs : List (String × α)) (key : String) :
    (entriesOf pairs).lookup key = pairs.reverse.lookup key := by
  induction pairs using List.reverseRecOn with
  | nil => rfl
  | append_singleton pairs p ih =>
      have hput : entriesOf (pairs ++ [p]) = putEntry p.1 p.2 (entriesOf pairs) := by
        simp [entriesOf, List.foldl_append]
      rw [hput, lookup_putEntry, ih, List.reverse_append]
      split
      · rename_i h
        rw [h]
        exact List.lookup_cons_self.symm
      · rename_i h
        exact (lookup_cons_of_ne h p.2 _).symm

end Entries

theorem PrefixTable.find?_ofList (pairs : List (String × String)) (type : String) :
    (ofList pairs).find? type = pairs.reverse.lookup type :=
  lookup_entriesOf pairs type

namespace Config

/-- The table that a dictionary of texts stands for. -/
def tableOf (entries : List (String × String)) : PrefixTable :=
  .ofList (entries.map fun e => (TypeSpelling.canonical e.1, e.2))

/-- The dictionary of some texts. -/
def dictOf (entries : List (String × String)) : Json :=
  .dict (entries.map fun e => (e.1, .str e.2))

theorem gather_map_ok {α β : Type} (f : α → β) (items : List α) :
    Checked.gather (items.map fun a => .ok (f a)) = .ok (items.map f) := by
  induction items with
  | nil => rfl
  | cons a rest ih => rw [List.map_cons, Checked.gather, ih, List.map_cons]

theorem readPrefixes_dictOf (key : String) (entries : List (String × String)) :
    readPrefixes key (dictOf entries) = .ok (tableOf entries) := by
  have hitems : (entries.map fun e => (e.1, Json.str e.2)).map (readPrefix key)
      = entries.map fun e => .ok (TypeSpelling.canonical e.1, e.2) := by
    rw [List.map_map]
    rfl
  rw [dictOf, readPrefixes, hitems, gather_map_ok]
  rfl

/-! ### Tables in documents -/

variable {document : Document} {entries : List (String × String)}

/-- The component of an entry that can be read holds what was read. -/
theorem sameAt_of_readEntry (hkeys : (document.map Prod.fst).Nodup) {e : String × Json}
    (he : e ∈ document) {x : Setting} (hread : readEntry e = .ok (some x)) :
    (Key.ofSetting x).SameAt (validate document).settings (({} : Settings).set x) := by
  have h := sameAt_validate_of_mem hkeys he (ofText?_of_readEntry hread)
  rwa [validate_settings [e], List.foldl_cons, applyEntry, hread] at h

theorem variablePrefixes_of_mem (hkeys : (document.map Prod.fst).Nodup)
    (h : ("var_prefixes", dictOf entries) ∈ document) :
    (validate document).settings.variablePrefixes = tableOf entries :=
  sameAt_of_readEntry hkeys h (bind_eq_ok.mpr ⟨_, readPrefixes_dictOf _ entries, rfl⟩)

theorem functionPrefixes_of_mem (hkeys : (document.map Prod.fst).Nodup)
    (h : ("function_prefixes", dictOf entries) ∈ document) :
    (validate document).settings.functionPrefixes = tableOf entries :=
  sameAt_of_readEntry hkeys h (bind_eq_ok.mpr ⟨_, readPrefixes_dictOf _ entries, rfl⟩)

end Config

end NameLint

/-
A key with a defect counts as not set.

Most entries with a defect write nothing: what was put together before the defect was met is
given up when the list of defects is found to have grown.  The include guards are written
all the same, but then they are unset.  On the default settings neither shows
(`applyEntry_of_diagnostics`), and with distinct keys no other entry has written the same
component: so whatever a diagnostic is about, the component it is about is the default one.

The entries with diagnostics of their own can thus be taken out of a document without any
effect on the settings, and what is left has no diagnostics.
-/
import NameLint.Proofs.Config.Locality

namespace NameLint

/-- A diagnostic about a key or about an option of its dictionary. -/
def Diagnostic.IsAbout (d : Diagnostic) (key : String) : Prop :=
  d.key = key ∨ ∃ option, d.key = key ++ "." ++ option

namespace Config

/-- The document without the entries that have diagnostics when taken alone. -/
def Document.sound (document : Document) : Document :=
  document.filter fun e => (validate [e]).diagnostics.isEmpty

/-! ### What the diagnostics of an entry are about -/

/-- Putting what was read into a setting adds no diagnostics. -/
theorem isAbout_of_mem_bind {α : Type} {key : String} {c : Checked α} {setting : α → Setting}
    {d : Diagnostic} (hc : ∀ d ∈ c.diagnostics, d.IsAbout key)
    (h : d ∈ (c >>= fun a => pure (some (setting a))).diagnostics) : d.IsAbout key := by
  rcases Checked.mem_diagnostics_bind h with h | ⟨a, -, h⟩
  · exact hc d h
  · simp at h

theorem Key.isAbout_of_mem_read {kind : Key} {key : String} {value : Json} {d : Diagnostic}
    (h : d ∈ (kind.read key value).diagnostics) : d.IsAbout key := by
  cases kind with
  | rule k => exact isAbout_of_mem_bind (fun d hd => Or.inl (readRule_names key value d hd)) h
  | variablePrefixes =>
      exact isAbout_of_mem_bind (fun d hd => Or.inl (readPrefixes_names key value d hd)) h
  | functionPrefixes =>
      exact isAbout_of_mem_bind (fun d hd => Or.inl (readPrefixes_names key value d hd)) h
  | includeGuard => exact isAbout_of_mem_bind (fun d hd => key_of_mem_readGuard hd) h
  | skipOneCharVariables =>
      exact isAbout_of_mem_bind (fun d hd => Or.inl (Checked.truth_names key value d hd)) h
  | comment => simp [read] at h

theorem isAbout_of_mem_readEntry {e : String × Json} {d : Diagnostic}
    (h : d ∈ (readEntry e).diagnostics) : d.IsAbout e.1 := by
  unfold readEntry at h
  split at h
  · have hunknown : Checked.Names e.1 (.defect (.unknownKey e.1) : Checked (Option Setting)) :=
      Checked.names_defect rfl
    exact Or.inl (hunknown d h)
  · simp at h
  · exact Key.isAbout_of_mem_read h

/-! ### Keys with diagnostics are not set -/

/-- On the default settings an entry with diagnostics has no effect. -/
theorem applyEntry_of_diagnostics {e : String × Json} (h : (readEntry e).diagnostics ≠ []) :
    applyEntry {} e = {} := by
  unfold applyEntry
  cases hread : readEntry e with
  | ok x =>
      rw [hread] at h
      exact absurd rfl h
  | error ds => exact ite_self _

/-- The component of an entry with diagnostics is the default one. -/
theorem unset_of_diagnostics {document : Document} (hkeys : (document.map Prod.fst).Nodup)
    {e : String × Json} (he : e ∈ document) (hbad : (readEntry e).diagnostics ≠ []) {kind : Key}
    (hkind : Key.ofText? e.1 = some kind) : kind.SameAt (validate document).settings {} := by
  have halone := sameAt_validate_of_mem hkeys he hkind
  rwa [validate_settings [e], List.foldl_cons, applyEntry_of_diagnostics hbad] at halone

/-! ### Documents without the entries that have diagnostics -/

theorem mem_sound_iff {document : Document} {e : String × Json} :
    e ∈ document.sound ↔ e ∈ document ∧ (readEntry e).diagnostics = [] := by
  rw [Document.sound, List.mem_filter, validate_singleton_diagnostics, List.isEmpty_iff]

theorem sound_diagnostics (document : Document) : (validate document.sound).diagnostics = [] := by
  rw [validate_diagnostics, List.flatMap_eq_nil_iff]
  intro e he
  rw [validate_singleton_diagnostics]
  exact (mem_sound_iff.mp he).2

/-- A component is given by the same entry in both documents, or by none in either. -/
theorem sound_settings {document : Document} (hkeys : (document.map Prod.fst).Nodup) :
    (validate document).settings = (validate document.sound).settings := by
  have hsound : (document.sound.map Prod.fst).Nodup :=
    (List.filter_sublist.map Prod.fst).nodup hkeys
  refine Key.settings_eq_of_sameAt fun kind => ?_
  by_cases hgood : ∃ e ∈ document.sound, Key.ofText? e.1 = some kind
  · obtain ⟨e, he, hkind⟩ := hgood
    exact (sameAt_validate_of_mem hkeys (mem_sound_iff.mp he).1 hkind).trans
      (sameAt_validate_of_mem hsound he hkind).symm
  · have habsent : ∀ e ∈ document.sound, Key.ofText? e.1 ≠ some kind := fun e he hkind =>
      hgood ⟨e, he, hkind⟩
    refine Key.SameAt.trans ?_ (sameAt_validate_of_absent habsent).symm
    by_cases hbad : ∃ e ∈ document, Key.ofText? e.1 = some kind
    · obtain ⟨e, he, hkind⟩ := hbad
      refine unset_of_diagnostics hkeys he (fun hnil => ?_) hkind
      exact hgood ⟨e, mem_sound_iff.mpr ⟨he, hnil⟩, hkind⟩
    · exact sameAt_validate_of_absent fun e he hkind => hbad ⟨e, he, hkind⟩

/--
**A defective key is as good as not there.**  Without the entries that have diagnostics of
their own a document has no diagnostics and the same settings; and every diagnostic is
about a key of the document whose component is the default one.
-/
theorem defective_unset {document : Document} (hkeys : (document.map Prod.fst).Nodup) :
    (validate document.sound).diagnostics = [] ∧
      (validate document).settings = (validate document.sound).settings ∧
      ∀ d ∈ (validate document).diagnostics, ∃ e ∈ document, d.IsAbout e.1 ∧
        ∀ kind, Key.ofText? e.1 = some kind → kind.SameAt (validate document).settings {} := by
  refine ⟨sound_diagnostics document, sound_settings hkeys, ?_⟩
  intro d hd
  rw [validate_diagnostics, List.mem_flatMap] at hd
  obtain ⟨e, he, hde⟩ := hd
  rw [validate_singleton_diagnostics] at hde
  refine ⟨e, he, isAbout_of_mem_readEntry hde, fun kind hkind => ?_⟩
  exact unset_of_diagnostics hkeys he (List.ne_nil_of_mem hde) hkind

/-- A guard with one bad option among good ones, and a table with one bad prefix. -/
theorem defective_unset_of_mixed_document :
    let document : Document :=
      [("include_guard",
          .dict [("required", .bool false), ("prefix", .int 3), ("case", .str "lower")]),
        ("skip_one_char_variables", .bool true),
        ("var_prefixes", .dict [("int", .str "i"), ("long", .bool true)])]
    (document.map Prod.fst).Nodup ∧
      (validate document).settings
        = (validate [("skip_one_char_variables", .bool true)]).settings :=
  ⟨by decide, (defective_unset (by decide)).2.1⟩

end Config

end NameLint

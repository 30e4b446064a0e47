/-
A document has no diagnostics exactly if it conforms to the schema.

Every entry is read on its own, so this is a matter of one entry at a time.  For the
settings the entries come together again: the rule of a kind of symbols is there exactly
if its key is set, made of the patterns that are written under it, and so is the guard
policy.

Options of include guards that are not known are left out of account.  They are the one
place where a null does not mean that something known is not set.
-/
import NameLint.Config.Document
import NameLint.Proofs.Config.Prefixes
import NameLint.Proofs.Config.Schema
import NameLint.Proofs.Toml.Below

namespace NameLint.Config

open Checked

variable {document : Document}

/-! ### Diagnostics -/

theorem readEntry_diagnostics_eq_nil_iff {e : String × Json} (hoptions : KnownOptions e)
    (hbelow : e.2.Below (Nat.pow 2 64)) : (readEntry e).diagnostics = [] ↔ Conforms e := by
  by_cases hknown : IsKnown e.1
  · obtain ⟨kind, hkey⟩ := hknown
    rw [(readEntry_judges hkey hoptions hbelow).diagnostics_eq_nil_iff]
    constructor
    · intro h
      exact ⟨kind, hkey, h⟩
    · rintro ⟨other, hother, h⟩
      rwa [← Key.eq_of_isSpelled hkey hother] at h
  · refine iff_of_false ?_ ?_
    · rw [readEntry, Key.ofText?_eq_none_iff.mpr hknown]
      exact List.cons_ne_nil _ _
    · rintro ⟨kind, hkey, -⟩
      exact hknown ⟨kind, hkey⟩

theorem diagnostics_eq_nil_iff (hbelow : ∀ e ∈ document, e.2.Below (Nat.pow 2 64))
    (hoptions : ∀ e ∈ document, KnownOptions e) :
    (validate document).diagnostics = [] ↔ ∀ e ∈ document, Conforms e := by
  rw [validate_diagnostics, List.flatMap_eq_nil_iff]
  refine forall₂_congr fun e he => ?_
  rw [validate_singleton_diagnostics]
  exact readEntry_diagnostics_eq_nil_iff (hoptions e he) (hbelow e he)

/-- What a document says is within bounds, in whichever format it is written. -/
theorem Document.below_of_parse {format : Format} {source : String}
    (h : Document.parse format source = .ok document) :
    ∀ e ∈ document, e.2.Below (Nat.pow 2 64) := by
  cases format with
  | json =>
      rw [Document.parse] at h
      split at h
      · rename_i value hvalue
        have hbelow := Json.below_of_parse hvalue
        cases value with
        | dict entries =>
            cases h
            exact Json.below_dict_iff.mp hbelow
        | _ => cases h
      · cases h
  | toml =>
      rw [Document.parse] at h
      split at h
      · rename_i entries hentries
        cases h
        rw [Toml.entriesToJson_eq_map, List.forall_mem_map]
        exact Toml.fits_of_parse hentries
      · cases h

/-- Of a document that was read, nothing has to be known but the options of include guards. -/
theorem diagnostics_eq_nil_iff_of_parse {format : Format} {source : String}
    (h : Document.parse format source = .ok document)
    (hoptions : ∀ e ∈ document, KnownOptions e) :
    (validate document).diagnostics = [] ↔ ∀ e ∈ document, Conforms e :=
  diagnostics_eq_nil_iff (Document.below_of_parse h) hoptions

/-! ### Settings -/

/-- A key that is only ever null leaves its component the default one. -/
theorem sameAt_default_of_null {kind : Key} (hkeys : (document.map Prod.fst).Nodup)
    (hnull : ∀ e ∈ document, kind.IsSpelled e.1 → e.2 = .null) :
    kind.SameAt (validate document).settings {} := by
  by_cases hmem : ∃ e ∈ document, Key.ofText? e.1 = some kind
  · obtain ⟨e, he, hkind⟩ := hmem
    have hkey := Key.ofText?_eq_some_iff.mp hkind
    have halone := sameAt_validate_of_mem hkeys he hkind
    rwa [validate_settings [e], List.foldl_cons, applyEntry,
      readEntry_of_null hkey (hnull e he hkey)] at halone
  · exact sameAt_validate_of_absent fun e he hkind => hmem ⟨e, he, hkind⟩

/-- A key that is set to something it admits has its component read from that. -/
theorem exists_sameAt_of_conforms {kind : Key} {e : String × Json} (he : e ∈ document)
    (hkeys : (document.map Prod.fst).Nodup) (hkey : kind.IsSpelled e.1) (hset : e.2 ≠ .null)
    (hbelow : e.2.Below (Nat.pow 2 64)) (hoptions : KnownOptions e) (hconforms : Conforms e) :
    ∃ x, kind.Gives e.2 x ∧ ∀ y, x = some y →
      (Key.ofSetting y).SameAt (validate document).settings (({} : Settings).set y) := by
  have hjudges := readEntry_judges hkey hoptions hbelow
  have hadmits := hjudges.diagnostics_eq_nil_iff.mp
    ((readEntry_diagnostics_eq_nil_iff hoptions hbelow).mpr hconforms)
  obtain ⟨x, hread, hgives⟩ := hjudges.exists_ok hadmits
  refine ⟨x, hgives hset, fun y hy => ?_⟩
  rw [hy] at hread
  exact sameAt_of_readEntry hkeys he hread

theorem rule_of_mem (hkeys : (document.map Prod.fst).Nodup)
    (hbelow : ∀ e ∈ document, e.2.Below (Nat.pow 2 64)) (hoptions : ∀ e ∈ document, KnownOptions e)
    (hconforms : ∀ e ∈ document, Conforms e) {k : RuleKey} {v : Json}
    (h : (k.text, v) ∈ document) (hset : v ≠ .null) :
    ∃ spec, (validate document).settings.rule k = some spec ∧ Written v spec := by
  have hkey : (Key.rule k).IsSpelled k.text := rfl
  obtain ⟨x, ⟨spec, hx, hwritten⟩, hsame⟩ := exists_sameAt_of_conforms h hkeys hkey hset
    (hbelow _ h) (hoptions _ h) (hconforms _ h)
  have hrule : (validate document).settings.rule k = _ := hsame _ hx
  exact ⟨spec, hrule.trans (if_pos rfl), hwritten⟩

theorem includeGuard_of_mem (hkeys : (document.map Prod.fst).Nodup)
    (hbelow : ∀ e ∈ document, e.2.Below (Nat.pow 2 64)) (hoptions : ∀ e ∈ document, KnownOptions e)
    (hconforms : ∀ e ∈ document, Conforms e) {v : Json} (h : ("include_guard", v) ∈ document)
    (hset : v ≠ .null) : ∃ policy, (validate document).settings.includeGuard = some policy := by
  have hkey : Key.includeGuard.IsSpelled "include_guard" := rfl
  obtain ⟨x, ⟨policy, hx⟩, hsame⟩ := exists_sameAt_of_conforms h hkeys hkey hset
    (hbelow _ h) (hoptions _ h) (hconforms _ h)
  exact ⟨policy, hsame _ hx⟩

/--
**The documents without diagnostics are those that conform to the schema.**  In such a
document a kind of symbols has a rule exactly if its key is set, with one entry for each
pattern that is written there, in order; and there is a guard policy exactly if the key of
the include guards is set.
-/
theorem diagnostics_eq_nil_iff_conforms (hkeys : (document.map Prod.fst).Nodup)
    (hbelow : ∀ e ∈ document, e.2.Below (Nat.pow 2 64))
    (hoptions : ∀ e ∈ document, KnownOptions e) :
    ((validate document).diagnostics = [] ↔ ∀ e ∈ document, Conforms e) ∧
      ((∀ e ∈ document, Conforms e) →
        (∀ k : RuleKey, ((validate document).settings.rule k).isSome = true ↔
          ∃ v, (k.text, v) ∈ document ∧ v ≠ .null) ∧
        (∀ (k : RuleKey) (v : Json), (k.text, v) ∈ document → v ≠ .null →
          ∃ spec, (validate document).settings.rule k = some spec ∧ Written v spec) ∧
        ((validate document).settings.includeGuard.isSome = true ↔
          ∃ v, ("include_guard", v) ∈ document ∧ v ≠ .null)) := by
  refine ⟨diagnostics_eq_nil_iff hbelow hoptions, fun hconforms => ⟨fun k => ⟨?_, ?_⟩, ?_, ?_, ?_⟩⟩
  · intro hsome
    by_contra hunset
    have hnull : ∀ e ∈ document, (Key.rule k).IsSpelled e.1 → e.2 = .null := by
      intro e he hkey
      by_contra hset
      have hkey : e.1 = k.text := hkey
      exact hunset ⟨e.2, by rw [← hkey]; exact he, hset⟩
    have hnone : (validate document).settings.rule k = none := sameAt_default_of_null hkeys hnull
    rw [hnone] at hsome
    cases hsome
  · rintro ⟨v, hv, hset⟩
    obtain ⟨spec, hspec, -⟩ := rule_of_mem hkeys hbelow hoptions hconforms hv hset
    rw [hspec]
    rfl
  · intro k v hv hset
    exact rule_of_mem hkeys hbelow hoptions hconforms hv hset
  · intro hsome
    by_contra hunset
    have hnull : ∀ e ∈ document, Key.includeGuard.IsSpelled e.1 → e.2 = .null := by
      intro e he hkey
      by_contra hset
      have hkey : e.1 = "include_guard" := hkey
      exact hunset ⟨e.2, by rw [← hkey]; exact he, hset⟩
    have hnone : (validate document).settings.includeGuard = none :=
      sameAt_default_of_null hkeys hnull
    rw [hnone] at hsome
    cases hsome
  · rintro ⟨v, hv, hset⟩
    obtain ⟨policy, hpolicy⟩ := includeGuard_of_mem hkeys hbelow hoptions hconforms hv hset
    rw [hpolicy]
    rfl

/-- Keys of all kinds, with the largest number of lines and with nulls at both levels. -/
theorem diagnostics_eq_nil_iff_conforms_of_all_kinds :
    let document : Document :=
      [("_note", .int 3), ("RE_FILE", .null), ("RE_VARNAME", .list [.str "[a-z]", .str "x"]),
        ("RE_CLASS_NAME", .dict [("[A-Z]", .bool false), ("a", .list [.bool true, .str "no"])]),
        ("var_prefixes", .dict [("int", .str "i")]),
        ("include_guard", .dict [("max_linenr", .int 18446744073709551615), ("case", .null)]),
        ("skip_one_char_variables", .bool true)]
    (document.map Prod.fst).Nodup ∧ (∀ e ∈ document, e.2.Below (Nat.pow 2 64)) ∧
      (∀ e ∈ document, KnownOptions e) ∧ (validate document).diagnostics = [] ∧
      (∀ e ∈ document, Conforms e) ∧
      ((validate document).settings.rule .file).isSome = false ∧
      ((validate document).settings.rule .variableName).isSome = true ∧
      (validate document).settings.includeGuard.isSome = true := by
  intro document
  have hkeys : (document.map Prod.fst).Nodup := by decide
  have hbelow : ∀ e ∈ document, e.2.Below (Nat.pow 2 64) := by simp [document]
  have hoptions : ∀ e ∈ document, KnownOptions e := by
    intro e he options heq
    obtain rfl : options = [("max_linenr", .int 18446744073709551615), ("case", .null)] := by
      simpa [document, heq] using he
    decide
  have hnil : (validate document).diagnostics = [] := by
    rw [validate_eq]
    rfl
  obtain ⟨hiff, hthen⟩ := diagnostics_eq_nil_iff_conforms hkeys hbelow hoptions
  have hconforms := hiff.mp hnil
  obtain ⟨hrule, -, hguard⟩ := hthen hconforms
  refine ⟨hkeys, hbelow, hoptions, hnil, hconforms, ?_, ?_, ?_⟩
  · refine Bool.eq_false_iff.mpr fun hsome => ?_
    obtain ⟨v, hv, hset⟩ := (hrule .file).mp hsome
    simp [document, RuleKey.text] at hv
    exact hset hv
  · exact (hrule .variableName).mpr
      ⟨.list [.str "[a-z]", .str "x"], by simp [document, RuleKey.text], by simp⟩
  · exact hguard.mpr ⟨_, by simp [document]; rfl, by simp⟩

end NameLint.Config

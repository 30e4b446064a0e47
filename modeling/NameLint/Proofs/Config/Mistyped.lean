/-
Values of the wrong type in a TOML document.

Every key takes values of a few types.  Validation only sees document values, though, and
these have fewer types: a float that is not finite falls together with null, and a date
with a dictionary.  The main statement says what becomes of a value whose type its key
does not take.

A null means that a key is not set, so with such a float a document is validated as if the
key were not there.  All other values are reported, since what they become is nothing that
the schema admits.  A date in place of the include guards takes a path of its own: it is
reported as an option that is not known.

Dates in place of prefix tables are left out, because any dictionary of texts is one.
-/
import Mathlib.Data.List.Nodup
import NameLint.Proofs.Config.Acceptance
import NameLint.Proofs.Config.Unknown
import NameLint.Proofs.Config.Unset
import NameLint.Proofs.Toml.Distinct

namespace NameLint

/-! ### Types of values -/

namespace Toml

/-- The types of values; floats that are not finite are told apart from the others. -/
inductive ValueType where
  | string
  | integer
  | float
  | nonFinite
  | boolean
  | datetime
  | array
  | table
deriving DecidableEq, Repr

/-- The type of a value. -/
def Value.type : Value → ValueType
  | .string _ => .string
  | .integer _ => .integer
  | .float _ => .float
  | .nonFinite => .nonFinite
  | .boolean _ => .boolean
  | .datetime _ => .datetime
  | .array _ => .array
  | .table _ => .table

theorem Value.toJson_eq_null_iff {v : Value} : v.toJson = .null ↔ v.type = .nonFinite := by
  cases v <;> simp [toJson, type]

end Toml

namespace Config

open Toml (Value ValueType)

namespace Key

/-- The types of values that a key takes; a comment may be anything. -/
def Takes (type : ValueType) : Key → Prop
  | rule _ => type ∈ [.string, .array, .table]
  | variablePrefixes | functionPrefixes | includeGuard => type = .table
  | skipOneCharVariables => type = .boolean
  | comment => True

/-- The keys of prefix tables. -/
def IsPrefixes (kind : Key) : Prop :=
  kind = variablePrefixes ∨ kind = functionPrefixes

end Key

theorem unknown_datetimeKey : ¬ IsKnownOption Toml.datetimeKey := by
  decide

theorem isKnownOption_of_admits {option : String} {value : Json} (h : OptionAdmits option value) :
    IsKnownOption option := by
  unfold OptionAdmits at h
  split at h
  case h_8 => exact Or.inr h
  all_goals exact Or.inl (by decide)

/-- What becomes of a date is no guard, because its key is no option. -/
theorem not_isGuard_datetime (text : String) : ¬ IsGuard (Value.datetime text).toJson := by
  intro h
  rcases h (Toml.datetimeKey, .str text) (List.mem_singleton.mpr rfl) with hnull | hadmits
  · cases hnull
  · exact unknown_datetimeKey (isKnownOption_of_admits hadmits)

/-- And it is no rule, because its text is no outcome. -/
theorem not_isRule_datetime (text : String) : ¬ IsRule (Value.datetime text).toJson := fun h =>
  (h (Toml.datetimeKey, .str text) (List.mem_singleton.mpr rfl)).2

/-- The schema admits what becomes of a value only if the key takes its type. -/
theorem Key.takes_of_admits {kind : Key} {v : Value}
    (hdated : ¬ (kind.IsPrefixes ∧ v.type = .datetime)) (h : kind.Admits v.toJson) :
    kind.Takes v.type := by
  have hprefixes : kind.IsPrefixes → IsPrefixTable v.toJson → v.type = .table := by
    intro hkind htable
    cases v with
    | datetime text => exact absurd ⟨hkind, rfl⟩ hdated
    | table entries => rfl
    | _ => exact absurd htable id
  cases kind with
  | rule k =>
      cases v with
      | datetime text => exact absurd h (not_isRule_datetime text)
      | string | array | table => simp [Takes, Value.type]
      | _ => exact absurd h id
  | variablePrefixes => exact hprefixes (Or.inl rfl) h
  | functionPrefixes => exact hprefixes (Or.inr rfl) h
  | includeGuard =>
      cases v with
      | datetime text => exact absurd h (not_isGuard_datetime text)
      | table entries => rfl
      | _ => exact absurd h id
  | skipOneCharVariables =>
      obtain ⟨b, hb⟩ := h
      cases v with
      | boolean => rfl
      | _ => cases hb
  | comment => trivial

/-! ### One entry -/

/-- A date in place of the include guards is an option that is not known. -/
theorem datetime_guard_reported (text : String) :
    (readEntry ("include_guard", (Value.datetime text).toJson)).diagnostics ≠ [] := by
  have hreported : reportedKeys ("include_guard", (Value.datetime text).toJson) ≠ [] := by
    refine (reportedKeys_ne_nil_iff _).mpr (Or.inr ⟨_, rfl, (Toml.datetimeKey, .str text), ?_⟩)
    exact ⟨List.mem_singleton.mpr rfl, unknown_datetimeKey, nofun⟩
  intro hnone
  rw [← unknownKeys_readEntry, hnone] at hreported
  exact hreported rfl

/-- Only dates have options that are not known, of the values that a key does not take. -/
theorem knownOptions_of_mistyped {kind : Key} {key : String} {v : Value}
    (hkey : kind.IsSpelled key) (htype : ¬ kind.Takes v.type)
    (hdate : ¬ (kind = .includeGuard ∧ v.type = .datetime)) : KnownOptions (key, v.toJson) := by
  rintro options he
  obtain ⟨rfl, hdict⟩ := Prod.mk.inj he
  obtain rfl : kind = .includeGuard := Key.eq_of_isSpelled hkey rfl
  cases v with
  | datetime text => exact absurd ⟨rfl, rfl⟩ hdate
  | table entries => exact absurd rfl htype
  | _ => cases hdict

/-- A value whose type the key does not take is reported, if there is anything left of it. -/
theorem diagnostics_ne_nil_of_mistyped {kind : Key} {key : String} {v : Value}
    (hkey : kind.IsSpelled key) (hfits : v.Fits) (htype : ¬ kind.Takes v.type)
    (hset : v.type ≠ .nonFinite) (hdated : ¬ (kind.IsPrefixes ∧ v.type = .datetime)) :
    (readEntry (key, v.toJson)).diagnostics ≠ [] := by
  by_cases hdate : kind = .includeGuard ∧ v.type = .datetime
  · obtain ⟨rfl, hdate⟩ := hdate
    obtain rfl : key = "include_guard" := hkey
    cases v with
    | datetime text => exact datetime_guard_reported text
    | _ => cases hdate
  · have hoptions := knownOptions_of_mistyped hkey htype hdate
    rw [ne_eq, (readEntry_judges hkey hoptions hfits).diagnostics_eq_nil_iff]
    rintro (hnull | hadmits)
    · exact hset (Value.toJson_eq_null_iff.mp hnull)
    · exact htype (Key.takes_of_admits hdated hadmits)

/-! ### Documents -/

theorem keys_entriesToJson (entries : List (String × Value)) :
    (Toml.entriesToJson entries).map Prod.fst = entries.map Prod.fst := by
  rw [Toml.entriesToJson_eq_map, List.map_map]
  rfl

theorem mem_entriesToJson {entries : List (String × Value)} {key : String} {v : Value}
    (h : (key, v) ∈ entries) : (key, v.toJson) ∈ Toml.entriesToJson entries := by
  rw [Toml.entriesToJson_eq_map]
  exact List.mem_map_of_mem h

/-- The types that the values of a document have, key by key. -/
def typesOf (entries : List (String × Value)) : List (String × ValueType) :=
  entries.map fun e => (e.1, e.2.type)

theorem exists_of_types {source : String} {types : List (String × ValueType)}
    (h : (Toml.parse source).map typesOf = some types) :
    ∃ entries, Toml.parse source = some entries ∧ typesOf entries = types :=
  Option.map_eq_some_iff.mp h

theorem exists_value_of_type {entries : List (String × Value)} {key : String} {type : ValueType}
    (h : (key, type) ∈ typesOf entries) : ∃ v, (key, v) ∈ entries ∧ v.type = type := by
  obtain ⟨⟨key', v⟩, he, heq⟩ := List.mem_map.mp h
  obtain ⟨rfl, rfl⟩ := Prod.mk.inj heq
  exact ⟨v, he, rfl⟩

/--
**A value whose type its key does not take is not used.**  The key counts as not set, and the
value is reported, dates in place of prefix tables apart.  A float that is not finite is not
reported; with it the document is validated as if the key were not there.
-/
theorem mistyped_unset {source : String} {entries : List (String × Value)}
    (hparse : Toml.parse source = some entries) {key : String} {v : Value}
    (he : (key, v) ∈ entries) {kind : Key} (hkey : kind.IsSpelled key)
    (htype : ¬ kind.Takes v.type) :
    let document := Toml.entriesToJson entries
    Document.parse .toml source = .ok document ∧
      (v.type = .nonFinite →
        kind.SameAt (validate document).settings {} ∧
          validate (document.filter fun e => e.1 ≠ key) = validate document) ∧
      (v.type ≠ .nonFinite → ¬ (kind.IsPrefixes ∧ v.type = .datetime) →
        kind.SameAt (validate document).settings {} ∧
          ∃ d ∈ (validate document).diagnostics, d.IsAbout key) := by
  intro document
  have hkeys : (document.map Prod.fst).Nodup := by
    rw [keys_entriesToJson]
    exact Toml.nodup_keys_of_parse hparse
  have hmem : (key, v.toJson) ∈ document := mem_entriesToJson he
  refine ⟨by rw [Document.parse, hparse], ?_, ?_⟩
  · intro hnonFinite
    have hnull := Value.toJson_eq_null_iff.mpr hnonFinite
    constructor
    · have halone := sameAt_validate_of_mem hkeys hmem (Key.ofText?_eq_some_iff.mpr hkey)
      rwa [validate_settings [_], List.foldl_cons, applyEntry,
        readEntry_of_null hkey hnull] at halone
    · refine validate_filter fun e hmem' hdropped => ?_
      have hsame : e.1 = key := by simpa using hdropped
      obtain rfl := List.inj_on_of_nodup_map hkeys hmem' hmem hsame
      exact readEntry_of_null hkey hnull
  · intro hset hdated
    have hbad :=
      diagnostics_ne_nil_of_mistyped hkey (Toml.fits_of_parse hparse _ he) htype hset hdated
    refine ⟨unset_of_diagnostics hkeys hmem hbad (Key.ofText?_eq_some_iff.mpr hkey), ?_⟩
    obtain ⟨d, hd⟩ := List.exists_mem_of_ne_nil _ hbad
    refine ⟨d, ?_, isAbout_of_mem_readEntry hd⟩
    rw [validate_diagnostics, List.mem_flatMap]
    exact ⟨_, hmem, by rwa [validate_singleton_diagnostics]⟩

/-- Two dates and a float that is not a number, none of which is what its key takes. -/
theorem mistyped_unset_of_three_values :
    let source := "RE_FILE = 1979-05-27\ninclude_guard = 07:32:00\nskip_one_char_variables = nan\n"
    ∃ entries, Toml.parse source = some entries ∧
      typesOf entries = [("RE_FILE", .datetime), ("include_guard", .datetime),
        ("skip_one_char_variables", .nonFinite)] ∧
      let document := Toml.entriesToJson entries
      (∃ d ∈ (validate document).diagnostics, d.IsAbout "RE_FILE") ∧
        (∃ d ∈ (validate document).diagnostics, d.IsAbout "include_guard") ∧
        validate (document.filter fun e => e.1 ≠ "skip_one_char_variables")
          = validate document := by
  intro source
  have hsource : (Toml.parse source).map typesOf = some [("RE_FILE", .datetime),
      ("include_guard", .datetime), ("skip_one_char_variables", .nonFinite)] := by
    decide +kernel
  obtain ⟨entries, hparse, htypes⟩ := exists_of_types hsource
  have hvalue : ∀ e ∈ typesOf entries, ∃ v, (e.1, v) ∈ entries ∧ v.type = e.2 :=
    fun e he => exists_value_of_type he
  rw [htypes] at hvalue
  obtain ⟨file, hfile, hfiletype⟩ := hvalue ("RE_FILE", .datetime) (by decide)
  obtain ⟨guard, hguard, hguardtype⟩ := hvalue ("include_guard", .datetime) (by decide)
  obtain ⟨skip, hskip, hskiptype⟩ := hvalue ("skip_one_char_variables", .nonFinite) (by decide)
  refine ⟨entries, hparse, htypes, ?_, ?_, ?_⟩
  · have hkey : (Key.rule .file).IsSpelled "RE_FILE" := rfl
    have h := mistyped_unset hparse hfile hkey (by simp [hfiletype, Key.Takes])
    exact (h.2.2 (by simp [hfiletype]) (by simp [Key.IsPrefixes])).2
  · have hkey : Key.includeGuard.IsSpelled "include_guard" := rfl
    have h := mistyped_unset hparse hguard hkey (by simp [hguardtype, Key.Takes])
    exact (h.2.2 (by simp [hguardtype]) (by simp [Key.IsPrefixes])).2
  · have hkey : Key.skipOneCharVariables.IsSpelled "skip_one_char_variables" := rfl
    have h := mistyped_unset hparse hskip hkey (by simp [hskiptype, Key.Takes])
    exact (h.2.1 hskiptype).2

theorem exists_value_of_single {source key : String} {type : ValueType}
    (h : (Toml.parse source).map typesOf = some [(key, type)]) :
    ∃ v, Toml.parse source = some [(key, v)] ∧ v.type = type := by
  obtain ⟨entries, hparse, htypes⟩ := exists_of_types h
  obtain ⟨⟨key', v⟩, rfl, heq⟩ := List.map_eq_singleton_iff.mp htypes
  obtain ⟨rfl, rfl⟩ := Prod.mk.inj heq
  exact ⟨v, hparse, rfl⟩

/-- Two values that are not reported: a float for a truth value, and a date for a prefix table. -/
theorem nonFinite_and_date_unreported :
    (∃ v, Toml.parse "skip_one_char_variables = nan" = some [("skip_one_char_variables", v)] ∧
      ¬ Key.skipOneCharVariables.Takes v.type ∧
      (validate (Toml.entriesToJson [("skip_one_char_variables", v)])).diagnostics = []) ∧
    ∃ v, Toml.parse "var_prefixes = 1979-05-27" = some [("var_prefixes", v)] ∧
      ¬ Key.variablePrefixes.Takes v.type ∧
      let validation := validate (Toml.entriesToJson [("var_prefixes", v)])
      validation.diagnostics = [] ∧ ¬ Key.variablePrefixes.SameAt validation.settings {} := by
  constructor
  · have hsource : (Toml.parse "skip_one_char_variables = nan").map typesOf
        = some [("skip_one_char_variables", .nonFinite)] := by decide +kernel
    obtain ⟨v, hparse, htype⟩ := exists_value_of_single hsource
    refine ⟨v, hparse, by simp [htype, Key.Takes], ?_⟩
    cases v with
    | nonFinite => rfl
    | _ => cases htype
  · have hsource : (Toml.parse "var_prefixes = 1979-05-27").map typesOf
        = some [("var_prefixes", .datetime)] := by decide +kernel
    obtain ⟨v, hparse, htype⟩ := exists_value_of_single hsource
    refine ⟨v, hparse, by simp [htype, Key.Takes], ?_⟩
    cases v with
    | datetime text =>
        refine ⟨rfl, fun hunset => ?_⟩
        have hsize := congrArg PrefixTable.size hunset
        cases hsize
    | _ => cases htype

end Config

end NameLint

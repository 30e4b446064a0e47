/-
The shapes of a naming rule.

A rule is written as one pattern, as a list of patterns or as a dictionary from patterns to
outcomes.  A pattern that stands alone or in a list is one that names have to match, and a
dictionary says that by mapping it to false.  Each of the three is read by a branch of its
own; `SameRule` says that no document can tell two values for a rule apart.

What an item stands for is said here without the readers: `IsItem` and `IsOutcomeEntry`
relate the items of lists and dictionaries to entries of rules by the names on which these
fire.  A rule is read exactly if each item stands for an entry, and then it consists of these
entries; otherwise there is one diagnostic for each item that stands for none.
-/
import Mathlib.Data.List.Basic
import NameLint.Proofs.Config.Locality
import NameLint.Proofs.Config.Schema

namespace NameLint.Config

open Checked

/-! ### What items stand for -/

/-- That a value says whether matching names are reported, and what to add to the message. -/
inductive Says : Json → Bool → Option String → Prop
  /-- The outcome by itself. -/
  | bare (reported : Bool) : Says (.bool reported) reported none
  /-- The outcome with a message. -/
  | withMessage (reported : Bool) (message : String) :
      Says (.list [.bool reported, .str message]) reported (some message)

/-- That an entry fires on the names for which a pattern has the given outcome, with a message. -/
structure Stands (raw : String) (reported : Bool) (message : Option String)
    (x : PatternEntry) : Prop where
  /-- The pattern is the one that is written. -/
  pattern : NamePattern.compile raw = .ok x.pattern
  /-- Names are bad if matching them comes out as given. -/
  fires : ∀ name, x.fires name = true ↔ x.pattern.accepts name = reported
  /-- The message is the one that is given. -/
  message : x.message = message

/-- That an item of a list stands for an entry: its pattern has to match. -/
def IsItem (item : Json) (x : PatternEntry) : Prop :=
  ∃ raw, item = .str raw ∧ Stands raw false none x

/-- That an entry of a dictionary stands for an entry of a rule: as its outcome says. -/
def IsOutcomeEntry (e : String × Json) (x : PatternEntry) : Prop :=
  ∃ reported message, Says e.2 reported message ∧ Stands e.1 reported message x

/-- Firing on an outcome leaves no choice of what is expected. -/
theorem stands_iff {raw : String} {reported : Bool} {message : Option String} {x : PatternEntry} :
    Stands raw reported message x ↔
      ∃ p, NamePattern.compile raw = .ok p ∧ x = ⟨p, !reported, message⟩ := by
  constructor
  · rintro ⟨hpattern, hfires, hmessage⟩
    obtain ⟨p, expected, m⟩ := x
    refine ⟨p, hpattern, ?_⟩
    have hname := hfires ""
    have hexpected : expected = !reported := by
      cases haccepts : p.accepts "" <;> cases expected <;> cases reported <;>
        simp_all [PatternEntry.fires]
    have hm : m = message := hmessage
    rw [hexpected, hm]
  · rintro ⟨p, hp, rfl⟩
    refine ⟨hp, ?_, rfl⟩
    intro name
    cases haccepts : p.accepts name <;> cases reported <;> simp [PatternEntry.fires, haccepts]

@[simp]
theorem outcome?_eq_some_iff {value : Json} {reported : Bool} {message : Option String} :
    outcome? value = some (reported, message) ↔ Says value reported message := by
  constructor
  · intro h
    unfold outcome? at h
    split at h
    · cases h
      exact .bare _
    · cases h
      exact .withMessage _ _
    · cases h
  · rintro (_ | _) <;> rfl

/-! ### Reading items -/

variable {key raw : String} {x : PatternEntry} {spec : RuleSpec}

@[simp]
theorem readPattern_eq_ok_iff {p : NamePattern} :
    readPattern key raw = .ok p ↔ NamePattern.compile raw = .ok p := by
  unfold readPattern
  cases NamePattern.compile raw <;> simp [defect]

@[simp]
theorem readRequired_eq_ok_iff : readRequired key raw = .ok x ↔ Stands raw false none x := by
  rw [readRequired, bind_eq_ok, stands_iff]
  simp only [readPattern_eq_ok_iff]
  refine exists_congr fun p => and_congr_right fun _ => ?_
  exact ⟨fun h => by cases h; rfl, fun h => by rw [h]; rfl⟩

@[simp]
theorem readListItem_eq_ok_iff {item : Json} : readListItem key item = .ok x ↔ IsItem item x := by
  cases item with
  | str raw => simp [readListItem, IsItem]
  | _ => simp [readListItem, IsItem, defect]

@[simp]
theorem readOutcome_eq_ok_iff {e : String × Json} :
    readOutcome key e = .ok x ↔ IsOutcomeEntry e x := by
  unfold readOutcome IsOutcomeEntry
  simp only [← outcome?_eq_some_iff, stands_iff]
  cases houtcome : outcome? e.2 with
  | none => simp [defect]
  | some outcome =>
      obtain ⟨reported, message⟩ := outcome
      show (readPattern key e.1 >>= fun p => pure (⟨p, !reported, message⟩ : PatternEntry))
        = .ok x ↔ _
      rw [bind_eq_ok]
      simp only [readPattern_eq_ok_iff]
      constructor
      · rintro ⟨p, hp, hx⟩
        cases hx
        exact ⟨reported, message, rfl, p, hp, rfl⟩
      · rintro ⟨b, m, heq, p, hp, rfl⟩
        cases heq
        exact ⟨p, hp, rfl⟩

/-! ### Defects of items -/

/-- What is wrong with a pattern. -/
def patternDefect? (key raw : String) : Option Diagnostic :=
  match NamePattern.compile raw with
  | .ok _ => none
  | .error cause => some (.invalidRegex key raw cause)

/-- What is wrong with an item of a list. -/
def itemDefect? (key : String) : Json → Option Diagnostic
  | .str raw => patternDefect? key raw
  | item => some (.itemShape key item.compact "str" item.shape)

/-- What is wrong with an entry of a dictionary; a bad outcome hides a bad pattern. -/
def entryDefect? (key : String) (e : String × Json) : Option Diagnostic :=
  if (outcome? e.2).isSome then patternDefect? key e.1 else some (.invalidOutcome key e.1)

theorem readPattern_diagnostics (key raw : String) :
    (readPattern key raw).diagnostics = (patternDefect? key raw).toList := by
  unfold readPattern patternDefect?
  cases NamePattern.compile raw <;> rfl

@[simp]
theorem readListItem_diagnostics (key : String) (item : Json) :
    (readListItem key item).diagnostics = (itemDefect? key item).toList := by
  cases item with
  | str raw =>
      rw [readListItem, readRequired, diagnostics_map, readPattern_diagnostics, itemDefect?]
  | _ => rfl

@[simp]
theorem readOutcome_diagnostics (key : String) (e : String × Json) :
    (readOutcome key e).diagnostics = (entryDefect? key e).toList := by
  unfold readOutcome entryDefect?
  cases outcome? e.2 with
  | none => rfl
  | some outcome => exact (diagnostics_map _ _).trans (readPattern_diagnostics key e.1)

@[simp]
theorem patternDefect?_eq_none_iff : patternDefect? key raw = none ↔ IsPattern raw := by
  unfold patternDefect? IsPattern
  cases NamePattern.compile raw <;> simp

@[simp]
theorem exists_stands_iff {reported : Bool} {message : Option String} :
    (∃ x, Stands raw reported message x) ↔ IsPattern raw := by
  simp only [stands_iff]
  constructor
  · rintro ⟨x, p, hp, -⟩
    exact ⟨p, hp⟩
  · rintro ⟨p, hp⟩
    exact ⟨_, p, hp, rfl⟩

theorem itemDefect?_eq_none_iff {item : Json} :
    itemDefect? key item = none ↔ ∃ x, IsItem item x := by
  cases item with
  | str raw => simp [itemDefect?, IsItem]
  | _ => simp [itemDefect?, IsItem]

theorem entryDefect?_eq_none_iff {e : String × Json} :
    entryDefect? key e = none ↔ ∃ x, IsOutcomeEntry e x := by
  unfold entryDefect? IsOutcomeEntry
  simp only [← outcome?_eq_some_iff]
  cases outcome? e.2 with
  | none => simp
  | some outcome =>
      obtain ⟨reported, message⟩ := outcome
      rw [if_pos (by rfl), patternDefect?_eq_none_iff, ← exists_stands_iff]
      constructor
      · rintro ⟨x, hx⟩
        exact ⟨x, reported, message, rfl, hx⟩
      · rintro ⟨x, b, m, heq, hx⟩
        cases heq
        exact ⟨x, hx⟩

/-! ### Rules -/

theorem readRule_list_eq_ok_iff {items : List Json} :
    readRule key (.list items) = .ok spec ↔ List.Forall₂ IsItem items spec.entries := by
  rw [readRule, bind_eq_ok]
  simp only [gather_map_eq_ok_iff, readListItem_eq_ok_iff]
  constructor
  · rintro ⟨entries, hentries, hspec⟩
    cases hspec
    exact hentries
  · intro hentries
    exact ⟨spec.entries, hentries, rfl⟩

theorem readRule_dict_eq_ok_iff {entries : List (String × Json)} :
    readRule key (.dict entries) = .ok spec ↔
      List.Forall₂ IsOutcomeEntry entries spec.entries := by
  rw [readRule, bind_eq_ok]
  simp only [gather_map_eq_ok_iff, readOutcome_eq_ok_iff]
  constructor
  · rintro ⟨xs, hxs, hspec⟩
    cases hspec
    exact hxs
  · intro hxs
    exact ⟨spec.entries, hxs, rfl⟩

theorem readRule_list_diagnostics (key : String) (items : List Json) :
    (readRule key (.list items)).diagnostics = items.filterMap (itemDefect? key) := by
  rw [readRule, diagnostics_map, diagnostics_gather, List.flatMap_map,
    List.filterMap_eq_flatMap_toList]
  simp only [readListItem_diagnostics]

theorem readRule_dict_diagnostics (key : String) (entries : List (String × Json)) :
    (readRule key (.dict entries)).diagnostics = entries.filterMap (entryDefect? key) := by
  rw [readRule, diagnostics_map, diagnostics_gather, List.flatMap_map,
    List.filterMap_eq_flatMap_toList]
  simp only [readOutcome_diagnostics]

/-- A pattern in a list is read as one whose matches a dictionary does not report. -/
theorem readRule_list_eq_dict (key : String) (raws : List String) :
    readRule key (.list (raws.map .str))
      = readRule key (.dict (raws.map fun raw => (raw, .bool false))) := by
  rw [readRule, readRule, List.map_map, List.map_map]
  rfl

theorem readRule_str_eq_list (key raw : String) :
    readRule key (.str raw) = readRule key (.list [.str raw]) := by
  rw [readRule, readRule]
  show (readRequired key raw >>= fun x => pure (⟨[x]⟩ : RuleSpec))
    = gather [readRequired key raw] >>= fun xs => pure ⟨xs⟩
  cases readRequired key raw with
  | ok x => rfl
  | error ds => simp [gather, bind, Except.bind]

/-! ### Documents -/

/-- That no document can tell two values for a rule apart. -/
def SameRule (k : RuleKey) (v w : Json) : Prop :=
  ∀ before after : Document,
    validate (before ++ (k.text, v) :: after) = validate (before ++ (k.text, w) :: after)

variable {k : RuleKey} {v w : Json}

theorem readEntry_rule (hset : v ≠ .null) : readEntry (k.text, v)
    = readRule k.text v >>= fun spec => pure (some (.rule k spec)) := by
  have hkey : (Key.rule k).IsSpelled (k.text, v).1 := rfl
  exact readEntry_of_set hkey hset

/-- An entry has no effect but through its key and what is read of it. -/
theorem validate_congr {e e' : String × Json} (hkey : e.1 = e'.1) (h : readEntry e = readEntry e')
    (before after : Document) :
    validate (before ++ e :: after) = validate (before ++ e' :: after) := by
  have happly : ∀ s, applyEntry s e = applyEntry s e' := by
    intro s
    rw [applyEntry, applyEntry, h, hkey]
  simp only [validate_eq, List.foldl_append, List.foldl_cons, happly, List.flatMap_append,
    List.flatMap_cons, h]

theorem sameRule_of_readRule_eq (hv : v ≠ .null) (hw : w ≠ .null)
    (h : readRule k.text v = readRule k.text w) : SameRule k v w := by
  intro before after
  have hread : readEntry (k.text, v) = readEntry (k.text, w) := by
    rw [readEntry_rule hv, readEntry_rule hw, h]
  exact validate_congr (by rfl) hread before after

theorem rule_eq_some_iff (hset : v ≠ .null) :
    (validate [(k.text, v)]).settings.rule k = some spec ↔ readRule k.text v = .ok spec := by
  have hrule : Key.ofText? k.text ≠ some .includeGuard := by cases k <;> decide
  rw [validate_settings, List.foldl_cons, applyEntry, readEntry_rule hset]
  cases readRule k.text v with
  | ok other => simp [bind, Except.bind, pure, Except.pure, Settings.set]
  | error ds => simp [bind, Except.bind, hrule]

theorem rule_diagnostics (hset : v ≠ .null) :
    (validate [(k.text, v)]).diagnostics = (readRule k.text v).diagnostics := by
  rw [validate_singleton_diagnostics, readEntry_rule hset, diagnostics_map]

/--
**The shapes of a rule mean the same thing.**  A list of patterns can be written as a
dictionary that maps each of them to false, and a pattern alone as a list.  A dictionary
is a rule exactly if each of its entries stands for an entry of a rule, which fires where
the pattern has the given outcome and carries the given message; and a list likewise.
The diagnostics are one for each item that stands for no entry, in order.
-/
theorem rule_shapes_agree (k : RuleKey) :
    (∀ raws : List String,
      SameRule k (.list (raws.map .str)) (.dict (raws.map fun raw => (raw, .bool false)))) ∧
      (∀ raw : String, SameRule k (.str raw) (.list [.str raw])) ∧
      (∀ (entries : List (String × Json)) (spec : RuleSpec),
        (validate [(k.text, .dict entries)]).settings.rule k = some spec ↔
          List.Forall₂ IsOutcomeEntry entries spec.entries) ∧
      (∀ (items : List Json) (spec : RuleSpec),
        (validate [(k.text, .list items)]).settings.rule k = some spec ↔
          List.Forall₂ IsItem items spec.entries) ∧
      (∀ entries, (validate [(k.text, .dict entries)]).diagnostics
        = entries.filterMap (entryDefect? k.text)) ∧
      (∀ items, (validate [(k.text, .list items)]).diagnostics
        = items.filterMap (itemDefect? k.text)) ∧
      (∀ e, entryDefect? k.text e = none ↔ ∃ x, IsOutcomeEntry e x) ∧
      ∀ item, itemDefect? k.text item = none ↔ ∃ x, IsItem item x := by
  have hlist : ∀ items, Json.list items ≠ .null := by simp
  have hdict : ∀ entries, Json.dict entries ≠ .null := by simp
  refine ⟨?_, ?_, ?_, ?_, ?_, ?_, fun e => entryDefect?_eq_none_iff,
    fun item => itemDefect?_eq_none_iff⟩
  · intro raws
    exact sameRule_of_readRule_eq (hlist _) (hdict _) (readRule_list_eq_dict k.text raws)
  · intro raw
    exact sameRule_of_readRule_eq (by simp) (hlist _) (readRule_str_eq_list k.text raw)
  · intro entries spec
    rw [rule_eq_some_iff (hdict entries), readRule_dict_eq_ok_iff]
  · intro items spec
    rw [rule_eq_some_iff (hlist items), readRule_list_eq_ok_iff]
  · intro entries
    rw [rule_diagnostics (hdict entries), readRule_dict_diagnostics]
  · intro items
    rw [rule_diagnostics (hlist items), readRule_list_diagnostics]

end NameLint.Config

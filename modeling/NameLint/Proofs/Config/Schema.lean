/-
What a configuration has to look like.

The schema is written down here on its own: which keys there are (`Key.IsSpelled`) and
which values each of them admits (`Key.Admits`).  It says nothing of how values are read.
A null is not among the admitted values of any key; it means that the key is not set, at
the top of a document as well as under the options of include guards.

For every kind of key there is one statement: reading the value of the key decides whether
the schema admits it.
-/
import NameLint.Proofs.Config.Judged
import NameLint.Proofs.Config.Locality
import NameLint.Proofs.Json.Below

namespace NameLint.Config

open Checked

/-! ### The schema -/

/-- That a text can be used as a pattern. -/
def IsPattern (raw : String) : Prop :=
  ∃ p, NamePattern.compile raw = .ok p

/-- What a pattern may be mapped to: whether a match is reported, alone or with a message. -/
def IsOutcome : Json → Prop
  | .bool _ => True
  | .list [.bool _, .str _] => True
  | _ => False

/-- Naming rules: one pattern, a list of patterns, or a dictionary from patterns to outcomes. -/
def IsRule : Json → Prop
  | .str raw => IsPattern raw
  | .list items => ∀ item ∈ items, ∃ raw, item = .str raw ∧ IsPattern raw
  | .dict entries => ∀ e ∈ entries, IsPattern e.1 ∧ IsOutcome e.2
  | _ => False

/-- Prefix tables: dictionaries of texts. -/
def IsPrefixTable : Json → Prop
  | .dict entries => ∀ e ∈ entries, ∃ required, e.2 = .str required
  | _ => False

/-- The options of include guards. -/
def guardOptions : List String :=
  ["required", "input", "case", "prefix", "suffix", "max_linenr", "RE_HEADERFILE"]

/-- That an option of include guards is known, or a comment. -/
def IsKnownOption (option : String) : Prop :=
  option ∈ guardOptions ∨ isComment option = true

instance (option : String) : Decidable (IsKnownOption option) :=
  inferInstanceAs (Decidable (_ ∨ _))

/-- The values that an option of include guards may have; a comment may have any. -/
def OptionAdmits (option : String) (value : Json) : Prop :=
  match option with
  | "required" => ∃ b, value = .bool b
  | "input" => ∃ name ∈ ["basename", "path"], value = .str name
  | "case" => ∃ name ∈ ["upper", "lower", "keep", "unchanged"], value = .str name
  | "prefix" => ∃ text, value = .str text
  | "suffix" => ∃ text, value = .str text
  | "max_linenr" => ∃ n : Nat, n < Nat.pow 2 64 ∧ value = .int n
  | "RE_HEADERFILE" => ∃ raw, value = .str raw ∧ IsPattern raw
  | _ => isComment option = true

/-- Guard policies: dictionaries of options, any of which may be null. -/
def IsGuard : Json → Prop
  | .dict options => ∀ o ∈ options, o.2 = .null ∨ OptionAdmits o.1 o.2
  | _ => False

namespace Key

/-- How the keys of a document are spelled. -/
def IsSpelled (key : String) : Key → Prop
  | rule k => key = k.text
  | variablePrefixes => key = "var_prefixes"
  | functionPrefixes => key = "function_prefixes"
  | includeGuard => key = "include_guard"
  | skipOneCharVariables => key = "skip_one_char_variables"
  | comment => isComment key = true

/-- The values that a key may have if it is set. -/
def Admits (value : Json) : Key → Prop
  | rule _ => IsRule value
  | variablePrefixes => IsPrefixTable value
  | functionPrefixes => IsPrefixTable value
  | includeGuard => IsGuard value
  | skipOneCharVariables => ∃ b, value = .bool b
  | comment => True

end Key

/-- That a key of a document is known, or a comment. -/
def IsKnown (key : String) : Prop :=
  ∃ kind : Key, kind.IsSpelled key

/-- That an entry of a document has a known key, and null or a value that the key admits. -/
def Conforms (e : String × Json) : Prop :=
  ∃ kind : Key, kind.IsSpelled e.1 ∧ (e.2 = .null ∨ kind.Admits e.2)

/-- That all options of the include guards are known or comments. -/
def KnownOptions (e : String × Json) : Prop :=
  ∀ options, e = ("include_guard", .dict options) → ∀ o ∈ options, IsKnownOption o.1

/-! ### Keys -/

theorem isComment_ruleKey (k : RuleKey) : isComment k.text = false := by
  cases k <;> decide

theorem ruleKey_ofText?_text (k : RuleKey) : RuleKey.ofText? k.text = some k := by
  cases k <;> decide

theorem ruleKey_ofText?_eq_none {key : String} (h : ∀ k : RuleKey, key ≠ k.text) :
    RuleKey.ofText? key = none := by
  cases hkey : RuleKey.ofText? key with
  | none => rfl
  | some k => exact absurd (Key.ruleKey_text_of_ofText? hkey).symm (h k)

/-- The keys that are told apart are those that are spelled as they should be. -/
theorem Key.ofText?_eq_some_iff {key : String} {kind : Key} :
    Key.ofText? key = some kind ↔ kind.IsSpelled key := by
  constructor
  · intro h
    unfold Key.ofText? at h
    cases hrule : RuleKey.ofText? key with
    | some k =>
        rw [hrule] at h
        obtain rfl := Option.some.inj h
        exact (ruleKey_text_of_ofText? hrule).symm
    | none =>
        rw [hrule] at h
        dsimp only at h
        split at h
        · cases h; assumption
        · split at h
          · cases h; assumption
          · split at h
            · cases h; assumption
            · split at h
              · cases h; assumption
              · split at h
                · cases h; assumption
                · cases h
  · intro h
    cases kind with
    | rule k =>
        obtain rfl : key = k.text := h
        rw [Key.ofText?, ruleKey_ofText?_text]
    | comment =>
        have hcomment : isComment key = true := h
        have hother : ∀ other : String, isComment other = false → key ≠ other := by
          intro other hfalse heq
          rw [heq, hfalse] at hcomment
          cases hcomment
        have hrule := ruleKey_ofText?_eq_none fun k => hother k.text (isComment_ruleKey k)
        rw [Key.ofText?, hrule]
        dsimp only
        rw [if_neg (hother _ (by decide)), if_neg (hother _ (by decide)),
          if_neg (hother _ (by decide)), if_neg (hother _ (by decide)), if_pos hcomment]
    | _ =>
        obtain rfl : key = _ := h
        decide

theorem Key.eq_of_isSpelled {key : String} {kind other : Key} (h : kind.IsSpelled key)
    (hother : other.IsSpelled key) : kind = other := by
  have heq : some kind = some other :=
    (ofText?_eq_some_iff.mpr h).symm.trans (ofText?_eq_some_iff.mpr hother)
  exact Option.some.inj heq

theorem Key.ofText?_eq_none_iff {key : String} : Key.ofText? key = none ↔ ¬ IsKnown key := by
  constructor
  · rintro hnone ⟨kind, hkey⟩
    rw [ofText?_eq_some_iff.mpr hkey] at hnone
    cases hnone
  · intro hunknown
    cases hkind : ofText? key with
    | none => rfl
    | some kind => exact absurd ⟨kind, ofText?_eq_some_iff.mp hkind⟩ hunknown

instance (key : String) : Decidable (IsKnown key) :=
  decidable_of_iff ((Key.ofText? key).isSome = true) (by
    rw [Option.isSome_iff_ne_none, ne_eq, Key.ofText?_eq_none_iff, not_not])

/-! ### Rules and prefix tables -/

theorem readPattern_judges (key raw : String) :
    Judges (IsPattern raw) (NamePattern.compile raw = .ok ·) (readPattern key raw) := by
  unfold readPattern
  split
  · rename_i p hp
    exact judges_pure ⟨p, hp⟩ hp
  · rename_i cause hcause
    refine judges_defect ?_ rfl
    rintro ⟨p, hp⟩
    rw [hcause] at hp
    cases hp

/-- That an entry of a rule is made of the given pattern. -/
def Compiled (raw : String) (entry : PatternEntry) : Prop :=
  NamePattern.compile raw = .ok entry.pattern

theorem readRequired_judges (key raw : String) :
    Judges (IsPattern raw) (Compiled raw) (readRequired key raw) :=
  judges_map (readPattern_judges key raw) fun _ hp => hp

theorem readListItem_judges (key : String) (item : Json) :
    Judges (∃ raw, item = .str raw ∧ IsPattern raw)
      (fun entry => ∃ raw, item = .str raw ∧ Compiled raw entry) (readListItem key item) := by
  cases item with
  | str raw =>
      have h : Judges (IsPattern raw) (fun entry => ∃ r, Json.str raw = .str r ∧ Compiled r entry)
          (readListItem key (.str raw)) :=
        judges_map (readPattern_judges key raw) fun _ hp => ⟨raw, rfl, hp⟩
      exact h.congr (by simp)
  | _ => exact judges_defect (by simp) rfl

theorem outcome?_eq_none_iff (value : Json) : outcome? value = none ↔ ¬ IsOutcome value := by
  unfold outcome? IsOutcome
  split <;> simp_all

theorem readOutcome_judges (key : String) (e : String × Json) :
    Judges (IsPattern e.1 ∧ IsOutcome e.2) (Compiled e.1) (readOutcome key e) := by
  unfold readOutcome
  cases houtcome : outcome? e.2 with
  | none =>
      have hnone := (outcome?_eq_none_iff e.2).mp houtcome
      exact judges_defect (fun h => hnone h.2) rfl
  | some outcome =>
      have hsome : IsOutcome e.2 := by
        by_contra hnone
        rw [(outcome?_eq_none_iff e.2).mpr hnone] at houtcome
        cases houtcome
      have h : Judges (IsPattern e.1) (Compiled e.1)
          (readPattern key e.1 >>= fun p => pure (⟨p, !outcome.1, outcome.2⟩ : PatternEntry)) :=
        judges_map (readPattern_judges key e.1) fun _ hp => hp
      exact h.congr (by simp [hsome])

/-- The patterns of a naming rule, in the order in which they are written. -/
def patternsOf : Json → List String
  | .str raw => [raw]
  | .list items => items.filterMap fun | .str raw => some raw | _ => none
  | .dict entries => entries.map Prod.fst
  | _ => []

/-- That a rule has one entry for each pattern of a value, in order. -/
def Written (value : Json) (spec : RuleSpec) : Prop :=
  List.Forall₂ Compiled (patternsOf value) spec.entries

theorem written_list {items : List Json} {entries : List PatternEntry}
    (h : List.Forall₂ (fun item entry => ∃ raw, item = .str raw ∧ Compiled raw entry) items
      entries) : Written (.list items) ⟨entries⟩ := by
  induction h with
  | nil => exact .nil
  | cons hitem _ ih =>
      obtain ⟨raw, rfl, hentry⟩ := hitem
      exact .cons hentry ih

theorem readRule_judges (key : String) (value : Json) :
    Judges (IsRule value) (Written value) (readRule key value) := by
  cases value with
  | str raw => exact judges_map (readRequired_judges key raw) fun _ hentry => .cons hentry .nil
  | list items =>
      exact judges_map (judges_gather items fun item _ => readListItem_judges key item)
        fun _ hentries => written_list hentries
  | dict entries =>
      refine judges_map (judges_gather entries fun e _ => readOutcome_judges key e)
        fun _ hentries => ?_
      exact List.forall₂_map_left_iff.mpr hentries
  | _ => exact judges_defect (fun h => h) rfl

theorem readPrefixes_judges (key : String) (value : Json) :
    Judges (IsPrefixTable value) (fun _ => True) (readPrefixes key value) := by
  cases value with
  | dict entries =>
      refine judges_map (judges_gather entries (Q := fun _ _ => True) fun e _ => ?_)
        fun _ _ => trivial
      unfold readPrefix
      split
      · rename_i required hrequired
        exact judges_pure ⟨required, hrequired⟩ trivial
      · rename_i hother
        refine judges_defect ?_ rfl
        rintro ⟨required, hrequired⟩
        exact hother required hrequired
  | _ => exact judges_defect (fun h => h) rfl

/-! ### Include guards -/

theorem readChoice_judges {α : Type} (key choices : String) {names : List String}
    {ofName? : String → Option α} (hnames : ∀ name, (ofName? name).isSome ↔ name ∈ names)
    (value : Json) :
    Judges (∃ name ∈ names, value = .str name) (fun _ => True)
      (readChoice key choices ofName? value) := by
  refine judges_bind (text_judges key value) ?_ ?_
  · rintro ⟨name, -, rfl⟩
    exact ⟨name, rfl⟩
  · rintro name rfl
    have hname := hnames name
    cases hchoice : ofName? name with
    | some a =>
        rw [hchoice] at hname
        exact judges_pure ⟨name, hname.mp rfl, rfl⟩ trivial
    | none =>
        rw [hchoice] at hname
        refine judges_defect ?_ rfl
        rintro ⟨other, hother, heq⟩
        cases heq
        exact absurd (hname.mpr hother) (by simp)

theorem guardInput_isSome (name : String) :
    (GuardInput.ofName? name).isSome ↔ name ∈ ["basename", "path"] := by
  unfold GuardInput.ofName?
  split
  · simp_all
  · split <;> simp_all

theorem guardCase_isSome (name : String) :
    (GuardCase.ofName? name).isSome ↔ name ∈ ["upper", "lower", "keep", "unchanged"] := by
  unfold GuardCase.ofName?
  split
  · simp_all
  · split
    · simp_all
    · split <;> simp_all

theorem readOption_judges {option : String} {value : Json}
    (hknown : IsKnownOption option)
    (hbelow : option = "max_linenr" → value.Below (Nat.pow 2 64)) (key : String) :
    Judges (OptionAdmits option value) (fun _ => True) (readOption option key value) := by
  unfold readOption
  split
  · exact judges_map (truth_judges key value) fun _ _ => trivial
  · exact judges_map (readChoice_judges key _ guardInput_isSome value) fun _ _ => trivial
  · exact judges_map (readChoice_judges key _ guardCase_isSome value) fun _ _ => trivial
  · exact judges_map (text_judges key value) fun _ _ => trivial
  · exact judges_map (text_judges key value) fun _ _ => trivial
  · have h : Judges (∃ n : Nat, value = .int n) (fun _ => True) (lineCount key value >>= fun n =>
        pure (fun p : GuardPolicy => { p with lineLimit := n })) :=
      judges_map (lineCount_judges key value) fun _ _ => trivial
    refine h.congr ⟨?_, ?_⟩
    · rintro ⟨n, rfl⟩
      exact ⟨n, Int.ofNat_lt.mp (Json.below_int_iff.mp (hbelow rfl)), rfl⟩
    · rintro ⟨n, -, rfl⟩
      exact ⟨n, rfl⟩
  · refine judges_bind (text_judges key value) ?_ ?_
    · rintro ⟨raw, rfl, -⟩
      exact ⟨raw, rfl⟩
    · rintro raw rfl
      have h : Judges (IsPattern raw) (fun _ => True) (readPattern key raw >>= fun header =>
          pure (fun p : GuardPolicy => { p with header := header })) :=
        judges_map (readPattern_judges key raw) fun _ _ => trivial
      refine h.congr ⟨fun hraw => ⟨raw, rfl, hraw⟩, ?_⟩
      rintro ⟨other, heq, hraw⟩
      cases heq
      exact hraw
  · have hcomment : isComment option = true := by
      rcases hknown with hoption | hcomment
      · simp_all [guardOptions]
      · exact hcomment
    rw [if_pos hcomment]
    refine judges_pure ?_ trivial
    unfold OptionAdmits
    split
    all_goals first | exact hcomment | simp_all

/-- The bound is for line counts alone, and no count is refused for its size. -/
theorem exists_readOption_judges {option : String} (hknown : IsKnownOption option) (key : String)
    (value : Json) : ∃ p, Judges p (fun _ => True) (readOption option key value) := by
  by_cases hlines : option = "max_linenr"
  · subst hlines
    exact ⟨_, judges_map (lineCount_judges key value) fun _ _ => trivial⟩
  · exact ⟨_, readOption_judges hknown (fun heq => absurd heq hlines) key⟩

theorem readGuardEntry_of_set {o : String × Json} (hset : o.2 ≠ .null) (key : String) :
    readGuardEntry key o = readOption o.1 (key ++ "." ++ o.1) o.2 := by
  unfold readGuardEntry
  split
  · exact absurd ‹_› hset
  · rfl

theorem readGuardEntry_judges {o : String × Json}
    (hknown : IsKnownOption o.1) (hbelow : o.2.Below (Nat.pow 2 64)) (key : String) :
    Judges (o.2 = .null ∨ OptionAdmits o.1 o.2) (fun _ => True) (readGuardEntry key o) := by
  by_cases hnull : o.2 = .null
  · rw [readGuardEntry, hnull]
    exact judges_pure (Or.inl rfl) trivial
  · rw [readGuardEntry_of_set hnull]
    have h := readOption_judges hknown (fun _ => hbelow) (key ++ "." ++ o.1)
    exact h.congr ⟨Or.inr, fun h => h.resolve_left hnull⟩

theorem readGuard_judges {value : Json} (key : String)
    (hknown : ∀ options, value = .dict options → ∀ o ∈ options, IsKnownOption o.1)
    (hbelow : value.Below (Nat.pow 2 64)) :
    Judges (IsGuard value) (fun _ => True) (readGuard key value) := by
  cases value with
  | dict options =>
      refine judges_map (judges_gather options (Q := fun _ _ => True) fun o ho => ?_)
        fun _ _ => trivial
      exact readGuardEntry_judges (hknown options rfl o ho) (Json.below_dict_iff.mp hbelow o ho) key
  | _ => exact judges_defect (fun h => h) rfl

/-! ### Entries -/

/-- What a value gives for a key that admits it: a rule as it is written, or a guard policy. -/
def Key.Gives (value : Json) (x : Option Setting) : Key → Prop
  | rule k => ∃ spec, x = some (.rule k spec) ∧ Written value spec
  | includeGuard => ∃ policy, x = some (.includeGuard policy)
  | _ => True

theorem Key.read_judges {kind : Key} {e : String × Json} (hkey : kind.IsSpelled e.1)
    (hoptions : KnownOptions e) (hbelow : e.2.Below (Nat.pow 2 64)) :
    Judges (kind.Admits e.2) (kind.Gives e.2) (kind.read e.1 e.2) := by
  cases kind with
  | rule k =>
      exact judges_map (readRule_judges e.1 e.2) fun spec hspec => ⟨spec, rfl, hspec⟩
  | variablePrefixes => exact judges_map (readPrefixes_judges e.1 e.2) fun _ _ => trivial
  | functionPrefixes => exact judges_map (readPrefixes_judges e.1 e.2) fun _ _ => trivial
  | includeGuard =>
      obtain ⟨key, value⟩ := e
      obtain rfl : key = "include_guard" := hkey
      refine judges_map (readGuard_judges _ (fun options hvalue => ?_) hbelow)
        fun policy _ => ⟨policy, rfl⟩
      exact hoptions options (by rw [← hvalue])
  | skipOneCharVariables => exact judges_map (truth_judges e.1 e.2) fun _ _ => trivial
  | comment => exact judges_pure trivial trivial

theorem readEntry_of_null {kind : Key} {e : String × Json} (hkey : kind.IsSpelled e.1)
    (hnull : e.2 = .null) : readEntry e = .ok none := by
  rw [readEntry, Key.ofText?_eq_some_iff.mpr hkey, hnull]
  rfl

theorem readEntry_of_set {kind : Key} {e : String × Json} (hkey : kind.IsSpelled e.1)
    (hset : e.2 ≠ .null) : readEntry e = kind.read e.1 e.2 := by
  unfold readEntry
  rw [Key.ofText?_eq_some_iff.mpr hkey]
  split <;> simp_all

/-- Reading an entry with a known key decides whether its value may stand there. -/
theorem readEntry_judges {kind : Key} {e : String × Json} (hkey : kind.IsSpelled e.1)
    (hoptions : KnownOptions e) (hbelow : e.2.Below (Nat.pow 2 64)) :
    Judges (e.2 = .null ∨ kind.Admits e.2) (fun x => e.2 ≠ .null → kind.Gives e.2 x)
      (readEntry e) := by
  by_cases hnull : e.2 = .null
  · rw [readEntry_of_null hkey hnull]
    exact judges_pure (Or.inl hnull) fun hset => absurd hnull hset
  · rw [readEntry_of_set hkey hnull]
    have h := Key.read_judges hkey hoptions hbelow
    exact (h.congr ⟨Or.inr, fun h => h.resolve_left hnull⟩).imp fun _ hgives _ => hgives

end NameLint.Config

/-
The options of include guards are independent of each other.

A policy is put together in one go over the options: each one is read, and what it gives is
a change of one field.  So options could get in each other's way by their order, by writing
the same field or by what is wrong with them.  They do not.

`GuardOption` names the fields, and `SameAt` compares policies in one of them.  What is read
of an option sets its own field to the value (`changeOf_spells`) and leaves all others alone
(`changeOf_sameAt`); with distinct options no field is written twice.  The order plays no
part in that, and `sameAt_of_same_options` says so of every field by itself.

That the whole policy hangs on there being no diagnostics is `readGuard_dict`.  It takes one
thing to be known of the readers, that none of them fails without saying why.  What is fine
is told entry by entry: one that says nothing, or that sets an option to something it can be
(`readGuardEntry_diagnostics_eq_nil_iff`).
-/
import Mathlib.Data.List.Permutation
import NameLint.Proofs.Config.Prefixes
import NameLint.Proofs.Config.RuleShapes
import NameLint.Proofs.Config.Unknown
import NameLint.Proofs.Config.Unset

namespace NameLint

/-- The options of include guards, by the fields of policies. -/
inductive GuardOption where
  | required
  | input
  | guardCase
  | before
  | after
  | lineLimit
  | header
deriving DecidableEq, Repr

namespace GuardOption

/-- The name of an option in a configuration. -/
def text : GuardOption → String
  | required => "required"
  | input => "input"
  | guardCase => "case"
  | before => "prefix"
  | after => "suffix"
  | lineLimit => "max_linenr"
  | header => "RE_HEADERFILE"

/-- That policies agree in the field of an option. -/
def SameAt (p q : GuardPolicy) : GuardOption → Prop
  | required => p.required = q.required
  | input => p.input = q.input
  | guardCase => p.guardCase = q.guardCase
  | before => p.before = q.before
  | after => p.after = q.after
  | lineLimit => p.lineLimit = q.lineLimit
  | header => p.header = q.header

/-- That a value spells what a policy has in the field of an option. -/
def Spells (value : Json) (p : GuardPolicy) : GuardOption → Prop
  | required => value = .bool p.required
  | input => ∃ name, value = .str name ∧ GuardInput.ofName? name = some p.input
  | guardCase => ∃ name, value = .str name ∧ GuardCase.ofName? name = some p.guardCase
  | before => value = .str p.before
  | after => value = .str p.after
  | lineLimit => value = .int p.lineLimit
  | header => ∃ raw, value = .str raw ∧ NamePattern.compile raw = .ok p.header

variable {option : GuardOption} {p q r : GuardPolicy} {value : Json}

theorem SameAt.refl (p : GuardPolicy) (option : GuardOption) : option.SameAt p p := by
  cases option <;> simp [SameAt]

theorem SameAt.symm (h : option.SameAt p q) : option.SameAt q p := by
  cases option <;> simp_all [SameAt]

theorem SameAt.trans (hpq : option.SameAt p q) (hqr : option.SameAt q r) : option.SameAt p r := by
  cases option <;> simp_all [SameAt]

/-- The fields are all there is to a policy. -/
theorem policy_eq_of_sameAt (h : ∀ option : GuardOption, option.SameAt p q) : p = q := by
  obtain ⟨header, required, input, guardCase, before, after, lineLimit⟩ := p
  have hheader : header = q.header := h .header
  have hrequired : required = q.required := h .required
  have hinput : input = q.input := h .input
  have hcase : guardCase = q.guardCase := h .guardCase
  have hbefore : before = q.before := h .before
  have hafter : after = q.after := h .after
  have hlimit : lineLimit = q.lineLimit := h .lineLimit
  rw [hheader, hrequired, hinput, hcase, hbefore, hafter, hlimit]

theorem Spells.congr (h : option.SameAt p q) (hvalue : option.Spells value q) :
    option.Spells value p := by
  cases option <;> simp_all [SameAt, Spells]

/-- A value spells one thing only. -/
theorem sameAt_of_spells (hp : option.Spells value p) (hq : option.Spells value q) :
    option.SameAt p q := by
  cases option with
  | required | before | after => simp_all [SameAt, Spells]
  | lineLimit =>
      have heq : Json.int p.lineLimit = .int q.lineLimit := hp.symm.trans hq
      exact Int.ofNat_inj.mp (Json.int.inj heq)
  | input | guardCase | header =>
      obtain ⟨name, rfl, hname⟩ := hp
      obtain ⟨other, heq, hother⟩ := hq
      cases heq
      simpa [SameAt, hname] using hother

theorem text_injective {other : GuardOption} (h : option.text = other.text) : option = other := by
  cases option <;> cases other <;> first | rfl | exact absurd h (by decide)

end GuardOption

/-! ### The default policy -/

theorem GuardOption.exists_spells_default (option : GuardOption) :
    ∃ value, value ≠ .null ∧ option.Spells value {} := by
  cases option with
  | required => exact ⟨.bool true, by simp, rfl⟩
  | input => exact ⟨.str "path", by simp, "path", rfl, by decide⟩
  | guardCase => exact ⟨.str "upper", by simp, "upper", rfl, by decide⟩
  | before | after => exact ⟨.str "", by simp, rfl⟩
  | lineLimit => exact ⟨.int 5, by simp, rfl⟩
  | header => exact ⟨.str defaultHeader, by simp, defaultHeader, rfl, Config.compile_defaultHeader⟩

namespace Config

open Checked

variable {key : String} {o : String × Json} {option : GuardOption}

/-! ### One option -/

theorem readChoice_eq_ok_iff {α : Type} {choices : String} {ofName? : String → Option α}
    {value : Json} {a : α} : readChoice key choices ofName? value = .ok a ↔
      ∃ name, value = .str name ∧ ofName? name = some a := by
  rw [readChoice, bind_eq_ok]
  constructor
  · rintro ⟨name, hname, hchoice⟩
    refine ⟨name, (text_judges key value).of_eq_ok hname, ?_⟩
    cases hofName : ofName? name with
    | none => simp [hofName, defect] at hchoice
    | some b => simpa [hofName, pure, Except.pure] using hchoice
  · rintro ⟨name, rfl, hname⟩
    exact ⟨name, rfl, by rw [hname]; rfl⟩

variable {value : Json} {change : PolicyChange}

/-- What is read of an option sets the field of the option to the value. -/
theorem readOption_spells (h : readOption option.text key value = .ok change) (p : GuardPolicy) :
    option.Spells value (change p) := by
  cases option with
  | required =>
      obtain ⟨b, hb, hchange⟩ := bind_eq_ok.mp h
      cases hchange
      exact (truth_judges key value).of_eq_ok hb
  | input =>
      obtain ⟨input, hinput, hchange⟩ := bind_eq_ok.mp h
      cases hchange
      exact readChoice_eq_ok_iff.mp hinput
  | guardCase =>
      obtain ⟨guardCase, hcase, hchange⟩ := bind_eq_ok.mp h
      cases hchange
      exact readChoice_eq_ok_iff.mp hcase
  | before =>
      obtain ⟨text, htext, hchange⟩ := bind_eq_ok.mp h
      cases hchange
      exact (text_judges key value).of_eq_ok htext
  | after =>
      obtain ⟨text, htext, hchange⟩ := bind_eq_ok.mp h
      cases hchange
      exact (text_judges key value).of_eq_ok htext
  | lineLimit =>
      obtain ⟨n, hn, hchange⟩ := bind_eq_ok.mp h
      cases hchange
      exact (lineCount_judges key value).of_eq_ok hn
  | header =>
      obtain ⟨raw, hraw, hrest⟩ := bind_eq_ok.mp h
      obtain ⟨pattern, hpattern, hchange⟩ := bind_eq_ok.mp hrest
      cases hchange
      exact ⟨raw, (text_judges key value).of_eq_ok hraw, readPattern_eq_ok_iff.mp hpattern⟩

/-- It leaves the fields of all other options alone. -/
theorem readOption_sameAt (h : readOption option.text key value = .ok change)
    {other : GuardOption} (hne : other ≠ option) (p : GuardPolicy) :
    other.SameAt (change p) p := by
  have hset : ∀ {α : Type} {c : Checked α} {set : α → PolicyChange},
      (c >>= fun a => pure (set a)) = .ok change → (∀ a, other.SameAt (set a p) p) →
        other.SameAt (change p) p := by
    intro α c set hread hsame
    obtain ⟨a, -, hchange⟩ := bind_eq_ok.mp hread
    cases hchange
    exact hsame a
  cases option with
  | header =>
      obtain ⟨raw, -, hrest⟩ := bind_eq_ok.mp h
      refine hset hrest fun pattern => ?_
      cases other <;> first | rfl | exact absurd rfl hne
  | _ =>
      refine hset h fun a => ?_
      cases other <;> first | rfl | exact absurd rfl hne

/-- A value that spells anything for an option is read. -/
theorem readOption_of_spells {p : GuardPolicy} (h : option.Spells value p) :
    ∃ change, readOption option.text key value = .ok change := by
  cases option with
  | required | before | after | lineLimit =>
      cases h
      exact ⟨_, rfl⟩
  | input =>
      exact ⟨_, bind_eq_ok.mpr ⟨p.input, readChoice_eq_ok_iff.mpr h, rfl⟩⟩
  | guardCase =>
      exact ⟨_, bind_eq_ok.mpr ⟨p.guardCase, readChoice_eq_ok_iff.mpr h, rfl⟩⟩
  | header =>
      obtain ⟨raw, rfl, hraw⟩ := h
      have hpattern : readPattern key raw = .ok p.header := readPattern_eq_ok_iff.mpr hraw
      exact ⟨_, bind_eq_ok.mpr ⟨raw, rfl, bind_eq_ok.mpr ⟨p.header, hpattern, rfl⟩⟩⟩

/-- A key that is no option is read only if it is a comment, and changes nothing. -/
theorem isComment_of_readOption {name : String} (hname : ∀ option : GuardOption, name ≠ option.text)
    (h : readOption name key value = .ok change) : isComment name = true ∧ change = id := by
  unfold readOption at h
  split at h
  case h_8 =>
    split at h
    · rename_i hcomment
      cases h
      exact ⟨hcomment, rfl⟩
    · cases h
  · exact absurd rfl (hname .required)
  · exact absurd rfl (hname .input)
  · exact absurd rfl (hname .guardCase)
  · exact absurd rfl (hname .before)
  · exact absurd rfl (hname .after)
  · exact absurd rfl (hname .lineLimit)
  · exact absurd rfl (hname .header)

/-! ### One entry -/

theorem readGuardEntry_of_null (hnull : o.2 = .null) (key : String) :
    readGuardEntry key o = .ok id := by
  rw [readGuardEntry, hnull]
  rfl

/-- Whether an entry says nothing: it is null, or a comment. -/
def saysNothing (o : String × Json) : Bool :=
  match o.2 with
  | .null => true
  | _ => isComment o.1

theorem saysNothing_of_set (hset : o.2 ≠ .null) : saysNothing o = isComment o.1 := by
  unfold saysNothing
  split
  · rename_i heq
    exact absurd heq hset
  · rfl

theorem readGuardEntry_of_saysNothing (h : saysNothing o = true) :
    readGuardEntry key o = .ok id := by
  by_cases hnull : o.2 = .null
  · exact readGuardEntry_of_null hnull key
  · have hcomment : isComment o.1 = true := by rwa [saysNothing_of_set hnull] at h
    rw [readGuardEntry_of_set hnull]
    unfold readOption
    split
    case h_8 => rw [if_pos hcomment]; rfl
    all_goals exact absurd hcomment (by simp_all [isComment])

/-- That an entry sets one of the options to something. -/
def SetsOption (o : String × Json) : Prop :=
  ∃ (option : GuardOption) (p : GuardPolicy), o.1 = option.text ∧ option.Spells o.2 p

theorem readGuardEntry_ne_error_nil (key : String) (o : String × Json) :
    readGuardEntry key o ≠ .error [] := by
  by_cases hnull : o.2 = .null
  · simp [readGuardEntry_of_null hnull]
  · rw [readGuardEntry_of_set hnull]
    by_cases hknown : IsKnownOption o.1
    · obtain ⟨p, hjudges⟩ := exists_readOption_judges hknown (key ++ "." ++ o.1) o.2
      exact hjudges.ne_error_nil
    · simp [readOption_of_unknown hknown, defect]

/-- The change that an entry makes, which is none if it has a defect. -/
def changeOf (key : String) (o : String × Json) : PolicyChange :=
  match readGuardEntry key o with
  | .ok change => change
  | .error _ => id

theorem readGuardEntry_eq_ok (h : (readGuardEntry key o).diagnostics = []) :
    readGuardEntry key o = .ok (changeOf key o) := by
  cases hread : readGuardEntry key o with
  | ok change => rw [changeOf, hread]
  | error ds =>
      rw [hread] at h
      obtain rfl : ds = [] := h
      exact absurd hread (readGuardEntry_ne_error_nil key o)

/-- An entry has no defect exactly if it says nothing or sets an option. -/
theorem readGuardEntry_diagnostics_eq_nil_iff :
    (readGuardEntry key o).diagnostics = [] ↔ saysNothing o = true ∨ SetsOption o := by
  by_cases hnothing : saysNothing o = true
  · simp [hnothing, readGuardEntry_of_saysNothing hnothing]
  · have hset : o.2 ≠ .null := by
      intro hnull
      exact hnothing (by rw [saysNothing, hnull])
    constructor
    · intro hread
      have hok := readGuardEntry_eq_ok hread
      rw [readGuardEntry_of_set hset] at hok
      by_cases hname : ∃ option : GuardOption, o.1 = option.text
      · obtain ⟨option, hname⟩ := hname
        rw [hname] at hok
        exact Or.inr ⟨option, changeOf key o {}, hname, readOption_spells hok {}⟩
      · have hcomment := (isComment_of_readOption (fun option h => hname ⟨option, h⟩) hok).1
        rw [saysNothing_of_set hset] at hnothing
        exact absurd hcomment hnothing
    · rintro (hsilent | ⟨option, p, hname, hspells⟩)
      · exact absurd hsilent hnothing
      · obtain ⟨change, hchange⟩ := readOption_of_spells hspells
        rw [readGuardEntry_of_set hset, hname, hchange]
        rfl

theorem changeOf_spells (hread : (readGuardEntry key o).diagnostics = []) (hset : o.2 ≠ .null)
    (hname : o.1 = option.text) (p : GuardPolicy) : option.Spells o.2 (changeOf key o p) := by
  have hok := readGuardEntry_eq_ok hread
  rw [readGuardEntry_of_set hset, hname] at hok
  exact readOption_spells hok p

theorem changeOf_sameAt (h : o.1 ≠ option.text ∨ o.2 = .null) (p : GuardPolicy) :
    option.SameAt (changeOf key o p) p := by
  rw [changeOf]
  cases hread : readGuardEntry key o with
  | error ds => exact .refl p option
  | ok change =>
      by_cases hnull : o.2 = .null
      · rw [readGuardEntry_of_null hnull] at hread
        cases hread
        exact .refl p option
      · rw [readGuardEntry_of_set hnull] at hread
        have hne := h.resolve_right hnull
        by_cases hother : ∃ other : GuardOption, o.1 = other.text
        · obtain ⟨other, hother⟩ := hother
          rw [hother] at hread hne
          exact readOption_sameAt hread (fun heq => hne (by rw [heq])) p
        · rw [(isComment_of_readOption (fun other heq => hother ⟨other, heq⟩) hread).2]
          exact .refl p option

/-! ### All options -/

variable {options others : List (String × Json)}

/-- The default policy with the changes of all options. -/
def policyOf (key : String) (options : List (String × Json)) : GuardPolicy :=
  options.foldl (fun p o => changeOf key o p) {}

/-- What is wrong with any of the options, in order. -/
def defectsOf (key : String) (options : List (String × Json)) : List Diagnostic :=
  options.flatMap fun o => (readGuardEntry key o).diagnostics

theorem readGuard_diagnostics (key : String) (options : List (String × Json)) :
    (readGuard key (.dict options)).diagnostics = defectsOf key options := by
  rw [readGuard, diagnostics_map, diagnostics_gather, List.flatMap_map]
  rfl

/-- **Either all options are good and the policy is theirs, or there is none.** -/
theorem readGuard_dict (key : String) (options : List (String × Json)) :
    readGuard key (.dict options)
      = if defectsOf key options = [] then .ok (policyOf key options)
        else .error (defectsOf key options) := by
  by_cases hsound : defectsOf key options = []
  · rw [if_pos hsound]
    have hread : options.map (readGuardEntry key) = options.map fun o => .ok (changeOf key o) := by
      refine List.map_congr_left fun o ho => ?_
      exact readGuardEntry_eq_ok (List.flatMap_eq_nil_iff.mp hsound o ho)
    rw [readGuard, hread, gather_map_ok]
    show Except.ok ((options.map (changeOf key)).foldl (fun p change => change p) {}) = _
    rw [List.foldl_map]
    rfl
  · rw [if_neg hsound]
    have hdefects := readGuard_diagnostics key options
    cases hread : readGuard key (.dict options) with
    | ok policy =>
        rw [hread] at hdefects
        exact absurd hdefects.symm hsound
    | error ds =>
        rw [hread] at hdefects
        exact congrArg Except.error hdefects

theorem defectsOf_eq_nil_iff :
    defectsOf key options = [] ↔ ∀ o ∈ options, saysNothing o = true ∨ SetsOption o := by
  rw [defectsOf, List.flatMap_eq_nil_iff]
  simp only [readGuardEntry_diagnostics_eq_nil_iff]

/-- A field whose option is not set stays as it was. -/
theorem foldl_changeOf_sameAt (h : ∀ o ∈ options, o.1 ≠ option.text ∨ o.2 = .null)
    (p : GuardPolicy) : option.SameAt (options.foldl (fun p o => changeOf key o p) p) p := by
  induction options generalizing p with
  | nil => exact .refl p option
  | cons o rest ih =>
      have hrest := ih (fun o' ho' => h o' (by simp [ho'])) (changeOf key o p)
      exact hrest.trans (changeOf_sameAt (h o (by simp)) p)

/-- A field whose option is set is what the value of the option spells. -/
theorem foldl_changeOf_spells (hkeys : (options.map Prod.fst).Nodup)
    (hread : defectsOf key options = []) (ho : (option.text, value) ∈ options)
    (hset : value ≠ .null) (p : GuardPolicy) :
    option.Spells value (options.foldl (fun p o => changeOf key o p) p) := by
  induction options generalizing p with
  | nil => simp at ho
  | cons o rest ih =>
      obtain ⟨hhead, hkeys⟩ := List.nodup_cons.mp hkeys
      obtain ⟨hreadHead, hread⟩ := List.append_eq_nil_iff.mp hread
      rw [List.foldl_cons]
      rcases List.mem_cons.mp ho with rfl | ho
      · refine GuardOption.Spells.congr (foldl_changeOf_sameAt (fun o' ho' => ?_) _)
          (changeOf_spells hreadHead hset rfl p)
        left
        intro hname
        have hmem : o'.1 ∈ rest.map Prod.fst := List.mem_map_of_mem ho'
        rw [hname] at hmem
        exact hhead hmem
      · exact ih hkeys hread ho _

end Config

/-- That a policy has in the field of an option what is set, and the default if nothing is. -/
def GuardOption.IsRead (options : List (String × Json)) (p : GuardPolicy)
    (option : GuardOption) : Prop :=
  (∃ value, (option.text, value) ∈ options ∧ value ≠ .null ∧ option.Spells value p) ∨
    (∀ value, (option.text, value) ∈ options → value = .null) ∧ option.SameAt p {}

namespace Config

open Checked

variable {key : String} {option : GuardOption} {options others : List (String × Json)}

theorem isRead_policyOf (hkeys : (options.map Prod.fst).Nodup)
    (hread : defectsOf key options = []) (option : GuardOption) :
    option.IsRead options (policyOf key options) := by
  by_cases hset : ∃ value, (option.text, value) ∈ options ∧ value ≠ .null
  · obtain ⟨value, hvalue, hset⟩ := hset
    exact Or.inl ⟨value, hvalue, hset, foldl_changeOf_spells hkeys hread hvalue hset _⟩
  · have hunset : ∀ value, (option.text, value) ∈ options → value = .null := by
      intro value hvalue
      by_contra hne
      exact hset ⟨value, hvalue, hne⟩
    refine Or.inr ⟨hunset, foldl_changeOf_sameAt (fun o ho => ?_) _⟩
    by_cases hname : o.1 = option.text
    · exact Or.inr (hunset o.2 (by rw [← hname]; exact ho))
    · exact Or.inl hname

/-- **A field depends on what is set for its own option and on nothing else.** -/
theorem sameAt_of_same_options {p q : GuardPolicy} (hkeys : (options.map Prod.fst).Nodup)
    (hsame : ∀ value, value ≠ .null →
      ((option.text, value) ∈ options ↔ (option.text, value) ∈ others))
    (hp : option.IsRead options p) (hq : option.IsRead others q) : option.SameAt p q := by
  rcases hp with ⟨v, hv, hset, hspells⟩ | ⟨hunset, hdefault⟩
  · rcases hq with ⟨w, hw, hset', hspells'⟩ | ⟨hunset', -⟩
    · have hpair : (option.text, v) = (option.text, w) :=
        List.inj_on_of_nodup_map hkeys hv ((hsame w hset').mpr hw) rfl
      cases hpair
      exact GuardOption.sameAt_of_spells hspells hspells'
    · exact absurd (hunset' v ((hsame v hset).mp hv)) hset
  · rcases hq with ⟨w, hw, hset', -⟩ | ⟨-, hdefault'⟩
    · exact absurd (hunset w ((hsame w hset').mpr hw)) hset'
    · exact hdefault.trans hdefault'.symm

theorem policyOf_perm (hkeys : (options.map Prod.fst).Nodup) (hread : defectsOf key options = [])
    (hread' : defectsOf key others = []) (hperm : options.Perm others) :
    policyOf key others = policyOf key options := by
  have hkeys' : (others.map Prod.fst).Nodup := (hperm.map Prod.fst).nodup_iff.mp hkeys
  refine GuardOption.policy_eq_of_sameAt fun option => ?_
  exact sameAt_of_same_options hkeys' (fun value _ => hperm.mem_iff.symm)
    (isRead_policyOf hkeys' hread' option) (isRead_policyOf hkeys hread option)

/-! ### Leaving out what says nothing -/

theorem changeOf_of_saysNothing {o : String × Json} (h : saysNothing o = true)
    (p : GuardPolicy) : changeOf key o p = p := by
  rw [changeOf, readGuardEntry_of_saysNothing h]
  rfl

theorem policyOf_filter (key : String) (options : List (String × Json)) :
    policyOf key (options.filter fun o => !saysNothing o) = policyOf key options := by
  refine foldl_filter_of_fixed (fun o _ hnothing p => ?_) _
  exact changeOf_of_saysNothing (by simpa using hnothing) p

theorem defectsOf_filter (key : String) (options : List (String × Json)) :
    defectsOf key (options.filter fun o => !saysNothing o) = defectsOf key options := by
  refine flatMap_filter_of_nil fun o _ hnothing => ?_
  rw [readGuardEntry_of_saysNothing (by simpa using hnothing)]
  rfl

/-! ### Documents -/

/-- What a document with a policy of these options and nothing else gives. -/
def guardOf (options : List (String × Json)) : Validation :=
  validate [("include_guard", .dict options)]

theorem readEntry_guard (options : List (String × Json)) :
    readEntry ("include_guard", .dict options)
      = readGuard "include_guard" (.dict options) >>= fun p => pure (some (.includeGuard p)) := by
  have hkey : Key.includeGuard.IsSpelled ("include_guard", Json.dict options).1 := rfl
  exact readEntry_of_set hkey (by simp)

theorem guardOf_diagnostics (options : List (String × Json)) :
    (guardOf options).diagnostics = defectsOf "include_guard" options := by
  rw [guardOf, validate_singleton_diagnostics, readEntry_guard, diagnostics_map,
    readGuard_diagnostics]

theorem guardOf_includeGuard (options : List (String × Json)) :
    (guardOf options).settings.includeGuard
      = if defectsOf "include_guard" options = [] then some (policyOf "include_guard" options)
        else none := by
  rw [guardOf, validate_settings, List.foldl_cons, applyEntry, readEntry_guard, readGuard_dict]
  by_cases hsound : defectsOf "include_guard" options = []
  · rw [if_pos hsound, if_pos hsound]
    rfl
  · rw [if_neg hsound, if_neg hsound]
    rfl

theorem guardOf_eq_some_iff {p : GuardPolicy} :
    (guardOf options).settings.includeGuard = some p ↔
      defectsOf "include_guard" options = [] ∧ policyOf "include_guard" options = p := by
  rw [guardOf_includeGuard]
  by_cases hsound : defectsOf "include_guard" options = []
  · simp [hsound]
  · simp [hsound]

theorem guardOf_perm (hkeys : (options.map Prod.fst).Nodup) (hperm : options.Perm others) :
    (guardOf others).settings.includeGuard = (guardOf options).settings.includeGuard ∧
      (guardOf others).diagnostics.Perm (guardOf options).diagnostics := by
  have hdefects : (defectsOf "include_guard" others).Perm (defectsOf "include_guard" options) :=
    hperm.symm.flatMap_right _
  refine ⟨?_, by rwa [guardOf_diagnostics, guardOf_diagnostics]⟩
  rw [guardOf_includeGuard, guardOf_includeGuard]
  by_cases hsound : defectsOf "include_guard" options = []
  · have hsound' : defectsOf "include_guard" others = [] := by
      rw [hsound] at hdefects
      exact hdefects.eq_nil
    rw [if_pos hsound, if_pos hsound', policyOf_perm hkeys hsound hsound' hperm]
  · have hsound' : defectsOf "include_guard" others ≠ [] := by
      intro hnil
      rw [hnil] at hdefects
      exact hsound hdefects.nil_eq.symm
    rw [if_neg hsound, if_neg hsound']

/-- Every default can be written in a configuration and means the same as leaving it out. -/
theorem exists_written_default (option : GuardOption) :
    ∃ value, value ≠ .null ∧ (guardOf [(option.text, value)]).settings.includeGuard = some {} := by
  obtain ⟨value, hset, hspells⟩ := option.exists_spells_default
  have hkeys : ([(option.text, value)].map Prod.fst).Nodup := List.nodup_singleton option.text
  have hread : defectsOf "include_guard" [(option.text, value)] = [] := by
    rw [defectsOf, List.flatMap_singleton, readGuardEntry_diagnostics_eq_nil_iff]
    exact Or.inr ⟨option, {}, rfl, hspells⟩
  refine ⟨value, hset, guardOf_eq_some_iff.mpr ⟨hread, ?_⟩⟩
  refine GuardOption.policy_eq_of_sameAt fun other => ?_
  rcases isRead_policyOf hkeys hread other with ⟨v, hv, -, hother⟩ | ⟨-, hdefault⟩
  · obtain ⟨htext, rfl⟩ := Prod.mk.inj (List.mem_singleton.mp hv)
    rw [GuardOption.text_injective htext] at hother ⊢
    exact GuardOption.sameAt_of_spells hother hspells
  · exact hdefault

/--
**The options of include guards are independent of each other.**  There is a policy exactly
if there are no diagnostics, and that is if each entry says nothing or sets an option.
Another order of the options gives the same policy and the same diagnostics in another
order, and leaving out all that says nothing changes nothing.  In every field the policy has
what is set for the option of the field, or the default if nothing is; so whatever else is
set, two policies that are set alike in an option agree in its field.
-/
theorem guard_options_independent {options : List (String × Json)}
    (hkeys : (options.map Prod.fst).Nodup) :
    ((guardOf options).settings.includeGuard.isSome = true ↔
        (guardOf options).diagnostics = []) ∧
      ((guardOf options).diagnostics = [] ↔
        ∀ o ∈ options, saysNothing o = true ∨ SetsOption o) ∧
      (∀ permuted, options.Perm permuted →
        (guardOf permuted).settings.includeGuard = (guardOf options).settings.includeGuard ∧
          (guardOf permuted).diagnostics.Perm (guardOf options).diagnostics) ∧
      ((guardOf (options.filter fun o => !saysNothing o)).settings.includeGuard
          = (guardOf options).settings.includeGuard ∧
        (guardOf (options.filter fun o => !saysNothing o)).diagnostics
          = (guardOf options).diagnostics) ∧
      ∀ policy, (guardOf options).settings.includeGuard = some policy →
        (∀ option : GuardOption, option.IsRead options policy) ∧
          ∀ others policy', (others.map Prod.fst).Nodup →
            (guardOf others).settings.includeGuard = some policy' →
              ∀ option : GuardOption,
                (∀ value, value ≠ .null →
                  ((option.text, value) ∈ options ↔ (option.text, value) ∈ others)) →
                option.SameAt policy policy' := by
  refine ⟨?_, ?_, fun permuted hperm => guardOf_perm hkeys hperm, ⟨?_, ?_⟩, ?_⟩
  · rw [guardOf_includeGuard, guardOf_diagnostics]
    by_cases hsound : defectsOf "include_guard" options = []
    · simp [hsound]
    · simp [hsound]
  · rw [guardOf_diagnostics, defectsOf_eq_nil_iff]
  · rw [guardOf_includeGuard, guardOf_includeGuard, defectsOf_filter, policyOf_filter]
  · rw [guardOf_diagnostics, guardOf_diagnostics, defectsOf_filter]
  · intro policy hpolicy
    obtain ⟨hsound, rfl⟩ := guardOf_eq_some_iff.mp hpolicy
    refine ⟨isRead_policyOf hkeys hsound, fun others policy' hkeys' hpolicy' option hsame => ?_⟩
    obtain ⟨hsound', rfl⟩ := guardOf_eq_some_iff.mp hpolicy'
    exact sameAt_of_same_options hkeys hsame (isRead_policyOf hkeys hsound option)
      (isRead_policyOf hkeys' hsound' option)

/-- A limit and a case among a comment and keys that are null, one of them unknown. -/
theorem guard_options_independent_of_mixed_options :
    let options : List (String × Json) :=
      [("max_linenr", .int 3), ("_note", .int 1), ("colour", .null), ("case", .str "keep"),
        ("prefix", .null)]
    let policy : GuardPolicy := { lineLimit := 3, guardCase := .keep }
    (options.map Prod.fst).Nodup ∧
      (guardOf options).settings.includeGuard = some policy ∧
      (guardOf options.reverse).settings.includeGuard = some policy ∧
      (guardOf [("max_linenr", .int 3), ("case", .str "keep")]).settings.includeGuard
        = some policy ∧
      GuardOption.lineLimit.IsRead options policy ∧ GuardOption.before.IsRead options policy := by
  intro options policy
  have hkeys : (options.map Prod.fst).Nodup := by decide
  obtain ⟨-, -, hperm, ⟨hfilter, -⟩, hfields⟩ := guard_options_independent hkeys
  have hchanges : ∀ p : GuardPolicy, options.foldl (fun p o => changeOf "include_guard" o p) p
      = { p with lineLimit := 3, guardCase := .keep } := fun _ => rfl
  have hpolicy : (guardOf options).settings.includeGuard = some policy :=
    guardOf_eq_some_iff.mpr ⟨rfl, hchanges {}⟩
  have hkept : (options.filter fun o => !saysNothing o)
      = [("max_linenr", .int 3), ("case", .str "keep")] := rfl
  rw [hkept] at hfilter
  refine ⟨hkeys, hpolicy, ?_, hfilter.trans hpolicy, ?_, ?_⟩
  · exact (hperm _ options.reverse_perm.symm).1.trans hpolicy
  · exact (hfields policy hpolicy).1 .lineLimit
  · exact (hfields policy hpolicy).1 .before

end Config

end NameLint

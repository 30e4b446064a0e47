/-
Validation is local to each key.

`validate` hands the settings and the list of defects from entry to entry, so what an entry
does could depend on which entries came before.  It does not.  That no entry looks at what
is already in the list is `validate_eq`.  As to the settings, an entry writes at most one
component, the one its key stands for, and every component has exactly one key: so with
distinct keys no entry ever meets what another one has written.

`Key.SameAt` compares two settings in the component of a key.  `foldl_sameAt_of_absent`
says that a component without an entry stays as it was, `foldl_sameAt_of_mem` that one
with an entry is what that entry alone makes of it; the order of the entries appears in
neither, and that is what makes the settings of a permuted document the same.
-/
import Mathlib.Data.List.Basic
import NameLint.Proofs.Config.OneList

namespace NameLint.Config

/-! ### Components of the settings -/

/-- The key whose component a setting replaces. -/
def Key.ofSetting : Setting → Key
  | .rule key _ => .rule key
  | .variablePrefixes _ => .variablePrefixes
  | .functionPrefixes _ => .functionPrefixes
  | .includeGuard _ => .includeGuard
  | .skipOneCharVariables _ => .skipOneCharVariables

/-- Settings that agree in the component of a key; a comment has no component. -/
def Key.SameAt (s t : Settings) : Key → Prop
  | .rule k => s.rule k = t.rule k
  | .variablePrefixes => s.variablePrefixes = t.variablePrefixes
  | .functionPrefixes => s.functionPrefixes = t.functionPrefixes
  | .includeGuard => s.includeGuard = t.includeGuard
  | .skipOneCharVariables => s.skipOneCharVariables = t.skipOneCharVariables
  | .comment => True

namespace Key

@[simp]
theorem SameAt.refl (s : Settings) (kind : Key) : kind.SameAt s s := by
  cases kind <;> simp [SameAt]

theorem SameAt.symm {s t : Settings} {kind : Key} (h : kind.SameAt s t) : kind.SameAt t s := by
  cases kind <;> simp_all [SameAt]

theorem SameAt.trans {s t u : Settings} {kind : Key} (hst : kind.SameAt s t)
    (htu : kind.SameAt t u) : kind.SameAt s u := by
  cases kind <;> simp_all [SameAt]

/-- The components are all there is to settings. -/
theorem settings_eq_of_sameAt {s t : Settings} (h : ∀ kind : Key, kind.SameAt s t) : s = t := by
  obtain ⟨rule, forVariables, forFunctions, guard, skip⟩ := s
  have hrule : rule = t.rule := funext fun k => h (.rule k)
  have hvariables : forVariables = t.variablePrefixes := h .variablePrefixes
  have hfunctions : forFunctions = t.functionPrefixes := h .functionPrefixes
  have hguard : guard = t.includeGuard := h .includeGuard
  have hskip : skip = t.skipOneCharVariables := h .skipOneCharVariables
  rw [hrule, hvariables, hfunctions, hguard, hskip]

/-- A setting leaves the components of all other keys alone. -/
theorem set_sameAt_of_ne (s : Settings) {x : Setting} {kind : Key} (h : ofSetting x ≠ kind) :
    kind.SameAt (s.set x) s := by
  cases x with
  | rule key spec =>
      cases kind with
      | rule k =>
          have hne : k ≠ key := by
            intro hk
            exact h (by rw [hk]; rfl)
          show (if k = key then some spec else s.rule k) = s.rule k
          rw [if_neg hne]
      | _ => first | rfl | trivial
  | _ => cases kind <;> first | rfl | trivial

/-- A setting makes its own component the same, whatever it was before. -/
theorem set_sameAt_self (s t : Settings) (x : Setting) :
    (ofSetting x).SameAt (s.set x) (t.set x) := by
  cases x <;> simp [ofSetting, SameAt, Settings.set]

/-- Include guards can be unset without any effect on the other components. -/
theorem unsetGuard_sameAt_of_ne (s : Settings) {kind : Key} (h : kind ≠ .includeGuard) :
    kind.SameAt { s with includeGuard := none } s := by
  cases kind <;> first | rfl | trivial

theorem unsetGuard_congr {s t : Settings} {kind : Key} (h : kind.SameAt s t) :
    kind.SameAt { s with includeGuard := none } { t with includeGuard := none } := by
  cases kind <;> first | exact h | rfl

/-! ### One key for each component -/

theorem ruleKey_text_of_ofText? {key : String} {k : RuleKey} (h : RuleKey.ofText? key = some k) :
    k.text = key := by
  simpa using List.find?_some h

/-- Two keys of one kind are the same key, unless they are comments. -/
theorem ofText?_injective {a b : String} {kind : Key} (ha : ofText? a = some kind)
    (hb : ofText? b = some kind) (hkind : kind ≠ .comment) : a = b := by
  unfold ofText? at ha hb
  cases hra : RuleKey.ofText? a with
  | some k =>
      cases hrb : RuleKey.ofText? b with
      | some k' =>
          rw [hra] at ha
          rw [hrb] at hb
          simp only [Option.some.injEq] at ha hb
          obtain rfl : k = k' := by simpa using ha.trans hb.symm
          rw [← ruleKey_text_of_ofText? hra, ← ruleKey_text_of_ofText? hrb]
      | none => grind
  | none => grind

/-- A key gives settings of its own component only. -/
theorem ofSetting_of_read {kind : Key} {key : String} {value : Json} {x : Setting}
    (h : kind.read key value = .ok (some x)) : ofSetting x = kind := by
  cases kind with
  | comment => simp [read, pure, Except.pure] at h
  | _ =>
      obtain ⟨a, -, ha⟩ := bind_eq_ok.mp h
      cases ha
      rfl

end Key

theorem ofText?_of_readEntry {e : String × Json} {x : Setting}
    (h : readEntry e = .ok (some x)) : Key.ofText? e.1 = some (Key.ofSetting x) := by
  unfold readEntry at h
  split at h
  · cases h
  · cases h
  · rename_i kind hkind _
    rw [hkind, Key.ofSetting_of_read h]

/-! ### One entry -/

theorem applyEntry_sameAt_of_ne (s : Settings) {e : String × Json} {kind : Key}
    (h : Key.ofText? e.1 ≠ some kind) : kind.SameAt (applyEntry s e) s := by
  unfold applyEntry
  split
  · rename_i x hx
    refine Key.set_sameAt_of_ne s ?_
    intro hkind
    exact h (by rw [ofText?_of_readEntry hx, hkind])
  · exact Key.SameAt.refl s kind
  · split
    · rename_i hguard
      exact Key.unsetGuard_sameAt_of_ne s fun hkind => h (by rw [hguard, hkind])
    · exact Key.SameAt.refl s kind

/-- What an entry makes of a component depends on nothing but that component. -/
theorem applyEntry_congr {s t : Settings} {kind : Key} (h : kind.SameAt s t)
    (e : String × Json) : kind.SameAt (applyEntry s e) (applyEntry t e) := by
  by_cases hkind : Key.ofText? e.1 = some kind
  · unfold applyEntry
    split
    · rename_i x hx
      rw [ofText?_of_readEntry hx, Option.some.injEq] at hkind
      rw [← hkind]
      exact Key.set_sameAt_self s t x
    · exact h
    · split
      · exact Key.unsetGuard_congr h
      · exact h
  · exact ((applyEntry_sameAt_of_ne s hkind).trans h).trans
      (applyEntry_sameAt_of_ne t hkind).symm

/-! ### All entries -/

/-- A component without an entry stays as it was. -/
theorem foldl_sameAt_of_absent {kind : Key} :
    ∀ (document : Document) (s : Settings), (∀ e ∈ document, Key.ofText? e.1 ≠ some kind) →
      kind.SameAt (document.foldl applyEntry s) s := by
  intro document
  induction document with
  | nil => intro s _; exact Key.SameAt.refl s kind
  | cons e rest ih =>
      intro s h
      have hrest := ih (applyEntry s e) fun e' he' => h e' (by simp [he'])
      exact hrest.trans (applyEntry_sameAt_of_ne s (h e (by simp)))

/-- A component with an entry is what that entry alone makes of it. -/
theorem foldl_sameAt_of_mem {kind : Key} {e : String × Json} (hkind : Key.ofText? e.1 = some kind) :
    ∀ (document : Document) (s : Settings), (document.map Prod.fst).Nodup → e ∈ document →
      kind.SameAt (document.foldl applyEntry s) (applyEntry s e) := by
  intro document
  by_cases hcomment : kind = .comment
  · subst hcomment
    intro s _ _
    trivial
  induction document with
  | nil => intro s _ he; simp at he
  | cons head rest ih =>
      intro s hkeys he
      obtain ⟨hhead, hrest⟩ := List.nodup_cons.mp hkeys
      rw [List.foldl_cons]
      -- Another entry of the same kind would have the same key.
      have hother : ∀ e' ∈ rest, Key.ofText? e'.1 = some kind → e'.1 ≠ head.1 := by
        intro e' he' _ heq
        exact hhead (by rw [← heq]; exact List.mem_map_of_mem he')
      rcases List.mem_cons.mp he with rfl | hmem
      · refine foldl_sameAt_of_absent rest _ fun e' he' hkind' => ?_
        exact hother e' he' hkind' (Key.ofText?_injective hkind' hkind hcomment)
      · have hne : Key.ofText? head.1 ≠ some kind := fun hkind' =>
          hother e hmem hkind (Key.ofText?_injective hkind hkind' hcomment)
        exact (ih _ hrest hmem).trans
          (applyEntry_congr (applyEntry_sameAt_of_ne s hne) e)

/-! ### Leaving out what has no effect -/

section Filter

variable {α β : Type} {as : List α} {keep : α → Bool}

theorem foldl_filter_of_fixed {f : β → α → β}
    (h : ∀ a ∈ as, keep a = false → ∀ b, f b a = b) (b : β) :
    (as.filter keep).foldl f b = as.foldl f b := by
  rw [List.foldl_filter]
  refine List.foldl_ext _ _ _ fun b a ha => ?_
  cases hkeep : keep a with
  | true => rfl
  | false => rw [h a ha hkeep, if_neg Bool.false_ne_true]

theorem flatMap_filter_of_nil {f : α → List β} (h : ∀ a ∈ as, keep a = false → f a = []) :
    (as.filter keep).flatMap f = as.flatMap f := by
  induction as with
  | nil => rfl
  | cons a rest ih =>
      obtain ⟨ha, hrest⟩ := List.forall_mem_cons.mp h
      rw [List.flatMap_cons, ← ih hrest]
      cases hkeep : keep a with
      | true => rw [List.filter_cons_of_pos hkeep, List.flatMap_cons]
      | false => rw [List.filter_cons_of_neg (by simp [hkeep]), ha hkeep, List.nil_append]

end Filter

/-- Entries that give nothing may as well be left out. -/
theorem validate_filter {document : Document} {keep : String × Json → Bool}
    (h : ∀ e ∈ document, keep e = false → readEntry e = .ok none) :
    validate (document.filter keep) = validate document := by
  rw [validate_eq, validate_eq document]
  exact congrArg₂ Validation.mk
    (foldl_filter_of_fixed (fun e he hdropped s => by rw [applyEntry, h e he hdropped]) _)
    (flatMap_filter_of_nil fun e he hdropped => by rw [h e he hdropped]; rfl)

/-! ### Documents -/

theorem validate_settings (document : Document) :
    (validate document).settings = document.foldl applyEntry {} := by
  rw [validate_eq]

theorem validate_singleton_diagnostics (e : String × Json) :
    (validate [e]).diagnostics = (readEntry e).diagnostics := by
  rw [validate_eq]
  exact List.append_nil _

theorem validate_diagnostics (document : Document) :
    (validate document).diagnostics = document.flatMap fun e => (validate [e]).diagnostics := by
  rw [validate_eq]
  exact congrArg (document.flatMap ·) (funext fun e => (validate_singleton_diagnostics e).symm)

/-- A component that has an entry is what that entry gives in a document of its own. -/
theorem sameAt_validate_of_mem {document : Document} (hkeys : (document.map Prod.fst).Nodup)
    {e : String × Json} (he : e ∈ document) {kind : Key} (hkind : Key.ofText? e.1 = some kind) :
    kind.SameAt (validate document).settings (validate [e]).settings := by
  rw [validate_settings, validate_settings]
  exact foldl_sameAt_of_mem hkind document {} hkeys he

/-- A component that has no entry is the default one. -/
theorem sameAt_validate_of_absent {document : Document} {kind : Key}
    (habsent : ∀ e ∈ document, Key.ofText? e.1 ≠ some kind) :
    kind.SameAt (validate document).settings {} := by
  rw [validate_settings]
  exact foldl_sameAt_of_absent document {} habsent

/-- The settings of a document do not depend on the order of its entries. -/
theorem validate_settings_perm {document permuted : Document}
    (hkeys : (document.map Prod.fst).Nodup) (hperm : document.Perm permuted) :
    (validate permuted).settings = (validate document).settings := by
  have hkeys' : (permuted.map Prod.fst).Nodup := (hperm.map Prod.fst).nodup_iff.mp hkeys
  refine Key.settings_eq_of_sameAt fun kind => ?_
  by_cases h : ∃ e ∈ document, Key.ofText? e.1 = some kind
  · obtain ⟨e, he, hkind⟩ := h
    exact (sameAt_validate_of_mem hkeys' (hperm.mem_iff.mp he) hkind).trans
      (sameAt_validate_of_mem hkeys he hkind).symm
  · have habsent : ∀ e ∈ document, Key.ofText? e.1 ≠ some kind := fun e he hkind =>
      h ⟨e, he, hkind⟩
    have habsent' : ∀ e ∈ permuted, Key.ofText? e.1 ≠ some kind := fun e he =>
      habsent e (hperm.mem_iff.mpr he)
    exact (sameAt_validate_of_absent habsent').trans (sameAt_validate_of_absent habsent).symm

/--
**Every entry counts for itself.**  The diagnostics of a document are those of its entries
taken alone, in order; each component of the settings is what the entry for it gives when
taken alone, and the default without one.  So no order of the entries gives other settings
or other diagnostics.
-/
theorem validate_local {document : Document} (hkeys : (document.map Prod.fst).Nodup) :
    (validate document).diagnostics
        = document.flatMap (fun e => (validate [e]).diagnostics) ∧
      (∀ e ∈ document, ∀ kind, Key.ofText? e.1 = some kind →
        kind.SameAt (validate document).settings (validate [e]).settings) ∧
      (∀ kind, (∀ e ∈ document, Key.ofText? e.1 ≠ some kind) →
        kind.SameAt (validate document).settings {}) ∧
      ∀ permuted : Document, document.Perm permuted →
        (validate permuted).settings = (validate document).settings ∧
          (validate permuted).diagnostics.Perm (validate document).diagnostics := by
  refine ⟨validate_diagnostics document, fun e he kind => sameAt_validate_of_mem hkeys he,
    fun kind => sameAt_validate_of_absent, fun permuted hperm => ?_⟩
  refine ⟨validate_settings_perm hkeys hperm, ?_⟩
  rw [validate_diagnostics, validate_diagnostics document]
  exact (hperm.flatMap_right _).symm

/-- A bad rule and a bad table next to good ones, in another order. -/
theorem validate_local_of_four_entries :
    let document : Document :=
      [("RE_FILE", .int 1), ("skip_one_char_variables", .bool true),
        ("var_prefixes", .dict [("int", .str "i"), ("long", .null)]), ("RE_VARNAME", .str "[a-z]+")]
    (document.map Prod.fst).Nodup ∧
      (validate document.reverse).settings = (validate document).settings ∧
      (validate document.reverse).diagnostics.Perm (validate document).diagnostics :=
  ⟨by decide, (validate_local (by decide)).2.2.2 _ (List.reverse_perm _).symm⟩

end NameLint.Config

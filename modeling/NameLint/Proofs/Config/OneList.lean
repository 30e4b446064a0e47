/-
One list of defects for all entries.

Readers add to a list that already holds what was wrong with earlier entries, and they decide
by its length whether what they have read is good.  `Follows` says that neither does harm:
whatever the list holds, a reader adds to it what is wrong with its own entry, and it gives a
value exactly if that is nothing.  The single checks do so, each on one path or the other
(`follows_pure`, `follows_refuse`).  Whatever is put together from them does so too, since a
list that has not grown has been given nothing (`unlessGrown_run`).

The include guards are the one key whose parts are written before it is known whether all
options are good.  There the step lemma says what holds of the parts as long as they are
(`Sets`), and no more: what is left in them after a defect is never looked at.

So an entry has the same effect wherever it stands (`validateEntry_run`), and `validate` is a
fold over entries that are read on their own (`validate_eq`).
-/
import NameLint.Proofs.Config.Checked
import NameLint.Proofs.Except
import NameLint.Proofs.Pattern.Anchoring

namespace NameLint

open Checked

namespace Reporting

variable {α β : Type}

/-- That a reader adds to the list what is wrong, and gives a value exactly if nothing is. -/
structure Follows (m : Reporting (Option α)) (c : Checked α) : Prop where
  /-- What it does to any list. -/
  run : ∀ ds, m ds = (c.toOption, ds ++ c.diagnostics)
  /-- Nothing fails without a word. -/
  ne_error_nil : c ≠ .error []

/-! ### Single checks -/

theorem follows_pure (a : α) : Follows (pure (some a)) (.ok a) where
  run ds := congrArg (Prod.mk (some a)) (List.append_nil ds).symm
  ne_error_nil := nofun

theorem follows_refuse (d : Diagnostic) : Follows (refuse d : Reporting (Option α)) (defect d) where
  run _ := rfl
  ne_error_nil := by simp [defect]

theorem expectBool_follows (key : String) (value : Json) :
    Follows (expectBool key value) (truth key value) := by
  cases value with
  | bool b => exact follows_pure b
  | _ => exact follows_refuse _

theorem expectText_follows (key : String) (value : Json) :
    Follows (expectText key value) (text key value) := by
  cases value with
  | str s => exact follows_pure s
  | _ => exact follows_refuse _

theorem expectLineCount_follows (key : String) (value : Json) :
    Follows (expectLineCount key value) (lineCount key value) := by
  cases value with
  | int i =>
      cases i with
      | ofNat n => exact follows_pure n
      | negSucc n => exact follows_refuse _
  | _ => exact follows_refuse _

/-! ### Checks put together -/

section Steps

variable {m : Reporting (Option α)} {c : Checked α} {k : α → Reporting (Option β)}
  {ds es : List Diagnostic}

theorem bind_run (m : Reporting α) (f : α → Reporting β) (ds : List Diagnostic) :
    (m >>= f) ds = f (m ds).1 (m ds).2 := rfl

theorem andThen_of_none (h : m ds = (none, es)) : m.andThen k ds = (none, es) := by
  rw [Reporting.andThen, bind_run, h]
  rfl

theorem andThen_of_some {a : α} (h : m ds = (some a, es)) : m.andThen k ds = k a es := by
  rw [Reporting.andThen, bind_run, h]

theorem bind_ne_error_nil {f : α → Checked β} (hc : c ≠ .error []) (hf : ∀ a, f a ≠ .error []) :
    (c >>= f) ≠ .error [] := by
  cases c with
  | ok a => exact hf a
  | error es => exact fun heq => hc (congrArg Except.error (Except.error.inj heq))

theorem Follows.map (h : Follows m c) (f : α → β) :
    Follows (do return (← m).map f) (c >>= fun a => pure (f a)) where
  run ds := by
    show ((m ds).1.map f, (m ds).2) = _
    rw [h.run]
    cases c <;> rfl
  ne_error_nil := bind_ne_error_nil h.ne_error_nil fun _ => nofun

theorem Follows.andThen {f : α → Checked β} (h : Follows m c) (hk : ∀ a, Follows (k a) (f a)) :
    Follows (m.andThen k) (c >>= f) where
  run ds := by
    cases c with
    | ok a =>
        rw [andThen_of_some (h.run ds), diagnostics_ok, List.append_nil]
        exact (hk a).run ds
    | error es => exact andThen_of_none (h.run ds)
  ne_error_nil := bind_ne_error_nil h.ne_error_nil fun a => (hk a).ne_error_nil

/-- **A list that has not grown has been given no defect.** -/
theorem unlessGrown_run (hne : c ≠ .error []) (ds : List Diagnostic) (b : β) :
    unlessGrown ds.length b (ds ++ c.diagnostics)
      = (c.toOption.map fun _ => b, ds ++ c.diagnostics) := by
  have hgrown : (ds ++ c.diagnostics).length = ds.length ↔ c.diagnostics = [] := by
    rw [List.length_append, Nat.add_eq_left, List.length_eq_zero_iff]
  show (if (ds ++ c.diagnostics).length = ds.length then some b else none, _) = _
  cases c with
  | ok a => rw [if_pos (hgrown.mpr rfl)]; rfl
  | error es => rw [if_neg fun heq => hne (congrArg Except.error (hgrown.mp heq))]; rfl

end Steps

theorem mapM_run {resolve : α → Reporting (Option β)} {read : α → Checked β}
    (h : ∀ a, Follows (resolve a) (read a)) (items : List α) (ds : List Diagnostic) :
    items.mapM resolve ds = ((items.map read).map Except.toOption,
      ds ++ (items.map read).flatMap diagnostics) := by
  induction items generalizing ds with
  | nil => exact congrArg (Prod.mk []) (List.append_nil ds).symm
  | cons a rest ih =>
      rw [List.mapM_cons]
      show ((resolve a ds).1 :: (rest.mapM resolve (resolve a ds).2).1,
        (rest.mapM resolve (resolve a ds).2).2) = _
      rw [(h a).run, ih, List.append_assoc]
      rfl

/-- A loop with a state of its own that adds to the list what is wrong with each item. -/
theorem foldlM_run {step : β → α → Reporting β} {apply : β → α → β} {defects : α → List Diagnostic}
    (h : ∀ b a ds, step b a ds = (apply b a, ds ++ defects a)) (items : List α) (b : β)
    (ds : List Diagnostic) :
    items.foldlM step b ds = (items.foldl apply b, ds ++ items.flatMap defects) := by
  induction items generalizing b ds with
  | nil => exact congrArg (Prod.mk b) (List.append_nil ds).symm
  | cons a rest ih =>
      rw [List.foldlM_cons]
      show rest.foldlM step (step b a ds).1 (step b a ds).2 = _
      rw [h, ih, List.append_assoc]
      rfl

/-! ### Lists of checks -/

theorem gather_ne_error_nil {cs : List (Checked α)} (h : ∀ c ∈ cs, c ≠ .error []) :
    gather cs ≠ .error [] := by
  induction cs with
  | nil =>
      intro heq
      cases heq
  | cons c rest ih =>
      obtain ⟨hc, hrest⟩ := List.forall_mem_cons.mp h
      cases c with
      | ok a =>
          rw [gather]
          cases hgather : gather rest with
          | ok as =>
              intro heq
              cases heq
          | error es =>
              intro heq
              exact ih hrest (hgather.trans (congrArg Except.error (Except.error.inj heq)))
      | error es =>
          intro heq
          exact hc (congrArg Except.error (List.append_eq_nil_iff.mp (Except.error.inj heq)).1)

theorem filterMap_of_gather {cs : List (Checked α)} {as : List α} (h : gather cs = .ok as) :
    (cs.map Except.toOption).filterMap id = as := by
  have hitems : List.Forall₂ (fun c a => c = .ok a) cs as :=
    gather_map_eq_ok_iff.mp ((congrArg gather (List.map_id cs)).trans h)
  clear h
  induction hitems with
  | nil => rfl
  | cons hc _ ih =>
      subst hc
      exact congrArg (List.cons _) ih

end Reporting

namespace Config

open Reporting

/-! ### Naming rules -/

theorem resolvePattern_follows (key raw : String) :
    Follows (resolvePattern key raw) (readPattern key raw) := by
  unfold resolvePattern readPattern
  cases NamePattern.compile raw with
  | ok p => exact follows_pure p
  | error cause => exact follows_refuse _

theorem resolveRequired_follows (key raw : String) :
    Follows (resolveRequired key raw) (readRequired key raw) :=
  (resolvePattern_follows key raw).map _

theorem resolveListItem_follows (key : String) (item : Json) :
    Follows (resolveListItem key item) (readListItem key item) := by
  cases item with
  | str raw => exact resolveRequired_follows key raw
  | _ => exact follows_refuse _

theorem resolveOutcome_follows (key : String) (entry : String × Json) :
    Follows (resolveOutcome key entry) (readOutcome key entry) := by
  unfold resolveOutcome readOutcome
  cases outcome? entry.2 with
  | none => exact follows_refuse _
  | some outcome => exact (resolvePattern_follows key entry.1).map _

/-- Items are put together if none of them has a defect. -/
theorem resolveItems_follows {α : Type} {resolve : α → Reporting (Option PatternEntry)}
    {read : α → Checked PatternEntry} (h : ∀ a, Follows (resolve a) (read a)) (items : List α) :
    Follows (resolveItems resolve items)
      (gather (items.map read) >>= fun entries => pure ⟨entries⟩) := by
  have hne : gather (items.map read) ≠ .error [] := by
    refine gather_ne_error_nil fun c hc => ?_
    obtain ⟨a, -, rfl⟩ := List.mem_map.mp hc
    exact (h a).ne_error_nil
  constructor
  · intro ds
    show unlessGrown ds.length (RuleSpec.mk ((items.mapM resolve ds).1.filterMap id))
      (items.mapM resolve ds).2 = _
    rw [mapM_run h, ← diagnostics_gather, unlessGrown_run hne]
    cases hread : gather (items.map read) with
    | ok entries => rw [filterMap_of_gather hread]; rfl
    | error es => rfl
  · exact bind_ne_error_nil hne fun _ => nofun

theorem resolveRule_follows (key : String) (value : Json) :
    Follows (resolveRule key value) (readRule key value) := by
  cases value with
  | str raw =>
      have h := resolveItems_follows (resolveRequired_follows key) [raw]
      have hread : (gather ([raw].map (readRequired key)) >>= fun entries => pure ⟨entries⟩)
          = readRule key (.str raw) := by
        rw [readRule, List.map_singleton]
        cases readRequired key raw with
        | ok entry => rfl
        | error es => exact congrArg Except.error (List.append_nil es)
      rwa [hread] at h
  | list items => exact resolveItems_follows (resolveListItem_follows key) items
  | dict entries => exact resolveItems_follows (resolveOutcome_follows key) entries
  | _ => exact follows_refuse _

/-! ### Prefix tables -/

/-- The table with an entry that has no defect. -/
def insertRead (key : String) (table : PrefixTable) (entry : String × Json) : PrefixTable :=
  match readPrefix key entry with
  | .ok p => table.insert p.1 p.2
  | .error _ => table

theorem insertPrefix_run (key : String) (table : PrefixTable) (entry : String × Json)
    (ds : List Diagnostic) : insertPrefix key table entry ds
      = (insertRead key table entry, ds ++ (readPrefix key entry).diagnostics) := by
  unfold insertPrefix insertRead readPrefix
  cases entry.2 with
  | str required => exact congrArg (Prod.mk _) (List.append_nil ds).symm
  | _ => rfl

theorem readPrefix_ne_error_nil (key : String) (entry : String × Json) :
    readPrefix key entry ≠ .error [] := by
  unfold readPrefix
  cases entry.2 <;> simp [defect]

theorem foldl_insertRead {key : String} {entries : List (String × Json)}
    {pairs : List (String × String)} (h : gather (entries.map (readPrefix key)) = .ok pairs) :
    entries.foldl (insertRead key) {} = .ofList pairs := by
  have hinsert : ∀ table : PrefixTable, entries.foldl (insertRead key) table
      = ⟨pairs.foldl (fun es p => putEntry p.1 p.2 es) table.entries⟩ := by
    have hitems := gather_map_eq_ok_iff.mp h
    clear h
    induction hitems with
    | nil => exact fun _ => rfl
    | cons hentry _ ih =>
        intro table
        rw [List.foldl_cons, insertRead, hentry, ih]
        rfl
  exact hinsert {}

theorem resolvePrefixes_follows (key : String) (value : Json) :
    Follows (resolvePrefixes key value) (readPrefixes key value) := by
  cases value with
  | dict entries =>
      have hne : gather (entries.map (readPrefix key)) ≠ .error [] := by
        refine gather_ne_error_nil fun c hc => ?_
        obtain ⟨entry, -, rfl⟩ := List.mem_map.mp hc
        exact readPrefix_ne_error_nil key entry
      constructor
      · intro ds
        show unlessGrown ds.length (entries.foldlM (insertPrefix key) {} ds).1
          (entries.foldlM (insertPrefix key) {} ds).2 = _
        rw [foldlM_run (insertPrefix_run key),
          ← List.flatMap_map (readPrefix key) diagnostics, ← diagnostics_gather,
          unlessGrown_run hne, readPrefixes]
        cases hread : gather (entries.map (readPrefix key)) with
        | ok pairs => rw [foldl_insertRead hread]; rfl
        | error es => rfl
      · exact bind_ne_error_nil hne fun _ => nofun
  | _ => exact follows_refuse _

/-! ### Include guards -/

theorem resolveChoice_follows {α : Type} (key choices : String) (ofName? : String → Option α)
    (value : Json) :
    Follows (resolveChoice key choices ofName? value) (readChoice key choices ofName? value) := by
  refine (expectText_follows key value).andThen fun name => ?_
  cases ofName? name with
  | some a => exact follows_pure a
  | none => exact follows_refuse _

/-- The policy that the parts stand for. -/
def GuardParts.read (p : GuardParts) : GuardPolicy :=
  p.policy (p.header.getD defaultHeaderPattern)

/-- That a step adds to the list what is wrong, and changes the policy of the parts as long as
nothing is. -/
structure Sets (m : Reporting GuardParts) (p : GuardParts) (c : Checked PolicyChange) : Prop where
  /-- What it does to any list. -/
  run : ∀ ds, ∃ p', m ds = (p', ds ++ c.diagnostics) ∧
    ∀ change, c = .ok change → p'.read = change p.read
  /-- Nothing fails without a word. -/
  ne_error_nil : c ≠ .error []

theorem sets_id (p : GuardParts) : Sets (pure p) p (pure id) where
  run ds := ⟨p, congrArg (Prod.mk p) (List.append_nil ds).symm, fun _ h => by cases h; rfl⟩
  ne_error_nil := nofun

theorem sets_defect (p : GuardParts) (d : Diagnostic) :
    Sets (do report d; return p) p (defect d) where
  run _ := ⟨p, rfl, nofun⟩
  ne_error_nil := by simp [defect]

theorem sets_of_follows {α : Type} {m : Reporting (Option α)} {c : Checked α} (h : Follows m c)
    {p : GuardParts} {put : Option α → GuardParts} {change : α → PolicyChange}
    (hput : ∀ a, (put (some a)).read = change a p.read) :
    Sets (do return put (← m)) p (c >>= fun a => pure (change a)) where
  run ds := by
    refine ⟨put c.toOption, ?_, fun made hmade => ?_⟩
    · show (put (m ds).1, (m ds).2) = _
      rw [h.run, diagnostics_map]
    · obtain ⟨a, rfl, ha⟩ := bind_eq_ok.mp hmade
      cases ha
      exact hput a
  ne_error_nil := bind_ne_error_nil h.ne_error_nil fun _ => nofun

theorem setOption_sets (p : GuardParts) (option key : String) (value : Json) :
    Sets (p.setOption option key value) p (readOption option key value) := by
  unfold GuardParts.setOption
  split
  · exact sets_of_follows (expectBool_follows key value) fun b => rfl
  · exact sets_of_follows (resolveChoice_follows key _ _ value) fun input => rfl
  · exact sets_of_follows (resolveChoice_follows key _ _ value) fun guardCase => rfl
  · exact sets_of_follows (expectText_follows key value) fun before => rfl
  · exact sets_of_follows (expectText_follows key value) fun after => rfl
  · exact sets_of_follows (expectLineCount_follows key value) fun lineLimit => rfl
  · have hread : readOption "RE_HEADERFILE" key value = (text key value >>= readPattern key)
        >>= fun header => pure fun p => { p with header := header } := by
      show (text key value >>= fun raw => readPattern key raw >>= _) = _
      cases text key value <;> rfl
    rw [hread]
    exact sets_of_follows ((expectText_follows key value).andThen (resolvePattern_follows key))
      fun header => rfl
  · have hread : readOption option key value
        = if isComment option then pure id else defect (.unknownKey key) := by
      unfold readOption
      split
      case h_8 => rfl
      all_goals contradiction
    rw [hread]
    cases isComment option with
    | true => exact sets_id p
    | false => exact sets_defect p _

theorem setEntry_sets (key : String) (p : GuardParts) (entry : String × Json) :
    Sets (GuardParts.setEntry key p entry) p (readGuardEntry key entry) := by
  unfold GuardParts.setEntry readGuardEntry
  cases entry.2 with
  | null => exact sets_id p
  | _ => exact setOption_sets p _ _ _

/-- The parts stand for the policy of the entries before, until there is a defect. -/
theorem foldlM_setEntry (key : String) (entries : List (String × Json)) (p : GuardParts)
    (ds : List Diagnostic) : ∃ p', entries.foldlM (GuardParts.setEntry key) p ds
        = (p', ds ++ (gather (entries.map (readGuardEntry key))).diagnostics) ∧
      ∀ changes, gather (entries.map (readGuardEntry key)) = .ok changes →
        p'.read = changes.foldl (fun policy change => change policy) p.read := by
  rw [diagnostics_gather]
  induction entries generalizing p ds with
  | nil => exact ⟨p, congrArg (Prod.mk p) (List.append_nil ds).symm, fun _ h => by cases h; rfl⟩
  | cons entry rest ih =>
      obtain ⟨next, hnext, hread⟩ := (setEntry_sets key p entry).run ds
      obtain ⟨last, hlast, hreads⟩ := ih next (ds ++ (readGuardEntry key entry).diagnostics)
      refine ⟨last, ?_, fun changes hchanges => ?_⟩
      · rw [List.foldlM_cons]
        show rest.foldlM (GuardParts.setEntry key) (GuardParts.setEntry key p entry ds).1
          (GuardParts.setEntry key p entry ds).2 = _
        rw [hnext, hlast, List.append_assoc]
        rfl
      · rw [gather_map_eq_ok_iff] at hchanges
        cases hchanges with
        | cons hentry hrest =>
            rw [hreads _ (gather_map_eq_ok_iff.mpr hrest), hread _ hentry]
            rfl

/-- The default pattern for headers is a good one. -/
theorem compile_defaultHeader : NamePattern.compile defaultHeader = .ok defaultHeaderPattern := by
  let dot : CharSet := ⟨[(0, 9), (0xB, 0xD7FF), (0xE000, 0x10FFFF)]⟩
  let e : Regex.Expr := .sequence [.assertion .lineStart, .group [] (.sequence
    [.repetition .dot 0 none, .literal ⟨'.', false⟩, .literal ⟨'h', false⟩, .assertion .textEnd])]
  let r : Regex := .seq (.look .textStart) (.seq (.seq (.times (.chars dot) 0 none)
    (.seq (.chars (.single 0x2E)) (.seq (.chars (.single 0x68)) (.seq (.look .textEnd) .empty))))
      .empty)
  -- A complement sorts its ranges, and these two are in order already.
  have hdot : (CharSet.single 0xA).complement = dot := by
    show CharSet.mk (CharSet.gaps 0 (CharSet.coalesce (List.mergeSort [(0xA, 0xA), (0xD800, 0xDFFF)]
      fun a b => a.1 ≤ b.1))) = dot
    rw [List.mergeSort_of_pairwise (by decide)]
    rfl
  have hparse : Regex.Expr.parse (NamePattern.wrapped defaultHeader.toList) = .ok e := rfl
  have hresolve : e.resolve {} = .ok (r, {}) := by
    simp only [r, ← hdot]
    rfl
  have hcompile : Regex.compile (NamePattern.wrapped defaultHeader.toList) = .ok r :=
    NamePattern.compileWithin_eq_ok.mpr ⟨e, {}, hparse, hresolve, by decide⟩
  have hpattern : NamePattern.compile defaultHeader = .ok ⟨defaultHeader, r⟩ :=
    bind_eq_ok.mpr ⟨r, hcompile, rfl⟩
  rw [defaultHeaderPattern, hpattern]

/-- Nothing can go wrong with the parts once all options are good. -/
theorem finishGuard_run (key : String) (parts : GuardParts) (ds : List Diagnostic) :
    finishGuard key parts ds = (some parts.read, ds) := by
  unfold finishGuard GuardParts.read
  cases parts.header with
  | some header => rfl
  | none => rw [resolvePattern, compile_defaultHeader]; rfl

theorem resolveGuard_follows (key : String) (value : Json) :
    Follows (resolveGuard key value) (readGuard key value) := by
  cases value with
  | dict entries =>
      have hne : gather (entries.map (readGuardEntry key)) ≠ .error [] := by
        refine gather_ne_error_nil fun c hc => ?_
        obtain ⟨entry, -, rfl⟩ := List.mem_map.mp hc
        exact (setEntry_sets key {} entry).ne_error_nil
      constructor
      · intro ds
        obtain ⟨parts, hparts, hread⟩ := foldlM_setEntry key entries {} ds
        show (unlessGrown ds.length (entries.foldlM (GuardParts.setEntry key) {} ds).1).andThen _
          (entries.foldlM (GuardParts.setEntry key) {} ds).2 = _
        rw [hparts, readGuard]
        have hgrown := unlessGrown_run hne ds parts
        cases hgather : gather (entries.map (readGuardEntry key)) with
        | ok changes =>
            rw [hgather] at hgrown
            rw [andThen_of_some hgrown, finishGuard_run, hread changes hgather]
            rfl
        | error es =>
            rw [hgather] at hgrown
            exact andThen_of_none hgrown
      · exact bind_ne_error_nil hne fun _ => nofun
  | _ => exact follows_refuse _

/-! ### Entries -/

/-- The settings with what was read under a key of some kind. -/
def applyRead (kind : Key) (s : Settings) : Checked (Option Setting) → Settings
  | .ok (some setting) => s.set setting
  | .ok none => s
  | .error _ => if kind = .includeGuard then { s with includeGuard := none } else s

/-- All keys but the one of the include guards leave the settings alone if they have a defect. -/
theorem setIfGiven_run {α : Type} {m : Reporting (Option α)} {c : Checked α} (h : Follows m c)
    (kind : Key) (hkind : kind ≠ .includeGuard) (s : Settings) (setting : α → Setting)
    (ds : List Diagnostic) :
    (do return setIfGiven s setting (← m) : Reporting Settings) ds
      = (applyRead kind s (c >>= fun a => pure (some (setting a))),
        ds ++ (c >>= fun a => pure (some (setting a))).diagnostics) := by
  show (setIfGiven s setting (m ds).1, (m ds).2) = _
  rw [h.run, diagnostics_map]
  cases c with
  | ok a => rfl
  | error es => exact congrArg (·, _) (if_neg hkind).symm

theorem Key.apply_run (kind : Key) (key : String) (value : Json) (s : Settings)
    (ds : List Diagnostic) : kind.apply key value s ds
      = (applyRead kind s (kind.read key value), ds ++ (kind.read key value).diagnostics) := by
  cases kind with
  | rule k => exact setIfGiven_run (resolveRule_follows key value) (.rule k) nofun s _ ds
  | variablePrefixes =>
      exact setIfGiven_run (resolvePrefixes_follows key value) .variablePrefixes nofun s _ ds
  | functionPrefixes =>
      exact setIfGiven_run (resolvePrefixes_follows key value) .functionPrefixes nofun s _ ds
  | includeGuard =>
      show ({ s with includeGuard := (resolveGuard key value ds).1 }, (resolveGuard key value ds).2)
        = (applyRead _ s (readGuard key value >>= fun p => pure (some (.includeGuard p))), _)
      rw [(resolveGuard_follows key value).run, Key.read, diagnostics_map]
      cases readGuard key value <;> rfl
  | skipOneCharVariables =>
      exact setIfGiven_run (expectBool_follows key value) .skipOneCharVariables nofun s _ ds
  | comment => exact congrArg (Prod.mk s) (List.append_nil ds).symm

/-- **An entry has the same effect whatever was wrong before it.** -/
theorem validateEntry_run (s : Settings) (e : String × Json) (ds : List Diagnostic) :
    validateEntry s e ds = (applyEntry s e, ds ++ (readEntry e).diagnostics) := by
  obtain ⟨key, value⟩ := e
  unfold applyEntry readEntry validateEntry
  cases hkind : Key.ofText? key with
  | none => rfl
  | some kind =>
      cases value with
      | null => exact congrArg (Prod.mk s) (List.append_nil ds).symm
      | _ =>
          refine (kind.apply_run key _ s ds).trans ?_
          cases hread : kind.read key _ with
          | ok setting => cases setting <;> simp only [applyRead, hread]
          | error es => simp only [applyRead, hread, Option.some.injEq]

/-- **A document is validated entry by entry.** -/
theorem validate_eq (document : Document) : validate document
    = ⟨document.foldl applyEntry {}, document.flatMap fun e => (readEntry e).diagnostics⟩ := by
  show (⟨(document.foldlM validateEntry {} []).1, (document.foldlM validateEntry {} []).2⟩
    : Validation) = _
  rw [foldlM_run validateEntry_run, List.nil_append]

end Config

end NameLint

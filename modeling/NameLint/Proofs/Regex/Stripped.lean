/-
Taking away a closing parenthesis after a pattern.

`Follows` goes from a pattern to the same pattern with a parenthesis after it.  This is the
way back.  What is read with the parenthesis there is read without it as well, as long as
the parenthesis is still ahead when the reader is done; a reader that has taken it for a
part of the pattern has nothing left to read, and what it makes of it does not matter.

`Precedes` says this of two readings, the second one with the parenthesis, and bounds what
the second one leaves.  The first reading is optional: it is lost once the second one has
gone past the end of the pattern, and from there on only the bound is of interest.  Some
readers run past the end and fail later for it, which is what `slack` is for: a lost
reading may have that many characters left.

The bound is for the fuel, which is given by the length of what is left, and there is less
of it without the parenthesis.

One reader looks ahead and goes back: the braces of a named boundary may turn out to be
those of a repetition.  At the end of a pattern it fails, and before the parenthesis it
goes back.  `CutBoundary` sets this case apart.
-/
import NameLint.Proofs.Regex.Enclosed

namespace NameLint.Regex

/-! ### The relation -/

/-- A text with a closing parenthesis after it beside the text without, or close to its end. -/
def Beside (slack : Nat) : Option Source → Source → Prop
  | none, s' => s'.rest.length ≤ slack
  | some s, s' => s'.names = s.names ∧ s'.rest = s.rest ++ [')']

/--
That a reading which ends well leaves at most `bound` characters, and that without the
parenthesis it has the same result unless it is lost.
-/
def Precedes {α : Type} (slack bound : Nat) (s : Option Source) (s' : Source)
    (m m' : Read α) : Prop :=
  ∀ a t', m' s' = .ok (a, t') → t'.rest.length ≤ bound ∧
    ∃ t, Beside slack t t' ∧ ∀ u ∈ t, ∃ v ∈ s, m v = .ok (a, u)

/-- What is left without the parenthesis; all that is left if the first reading is lost. -/
def bare (s : Option Source) (s' : Source) : List Char :=
  (s.map Source.rest).getD s'.rest

variable {α β : Type} {slack bound : Nat} {s : Option Source} {s' : Source}

/-! ### Texts -/

namespace Beside

theorem weaken {slack' : Nat} (h : Beside slack s s') (hle : slack ≤ slack') :
    Beside slack' s s' := by
  cases s with
  | none => exact Nat.le_trans h hle
  | some v => exact h

/-- Without the parenthesis the text is the same but for the parenthesis at its end. -/
theorem extends_bare (h : Beside slack s s') :
    s'.rest = bare s s' ∨ Extends (bare s s') s'.rest := by
  cases s with
  | none => exact Or.inl rfl
  | some v => exact Or.inr (Or.inl h.2)

theorem length_le_bare (h : Beside slack s s') : s'.rest.length ≤ (bare s s').length + 1 := by
  cases s with
  | none => exact Nat.le_succ _
  | some v => exact Nat.le_of_eq ((congrArg List.length h.2).trans List.length_append)

/-- The parenthesis alone is close to the end. -/
theorem lost_of_paren (slack : Nat) (h : s'.rest = [')']) : Beside (slack + 1) none s' := by
  show s'.rest.length ≤ slack + 1
  rw [h]
  exact Nat.le_add_left 1 slack

theorem length_le_bare_of_mem : ∀ v ∈ s, v.rest.length ≤ (bare s s').length := by
  rintro v rfl
  exact Nat.le_refl _

theorem succ_length_le_bare_of_mem : ∀ v ∈ s, v.rest.length + 1 ≤ (bare s s').length + 1 :=
  fun v hv => Nat.succ_le_succ (length_le_bare_of_mem v hv)

/-- A reading that is not lost has less left without the parenthesis. -/
theorem succ_length_le_of_mem {fuel : Nat} (h : Beside slack s s') (hle : s'.rest.length ≤ fuel) :
    ∀ v ∈ s, v.rest.length + 1 ≤ fuel := by
  rintro v rfl
  rw [h.2, List.length_append] at hle
  exact hle

theorem isPrefixOf_eq (h : Beside slack s s') {mark : List Char} (hmark : ')' ∉ mark) :
    mark.isPrefixOf s'.rest = mark.isPrefixOf (bare s s') := by
  rcases h.extends_bare with hrest | hrest
  · rw [← hrest]
  · exact hrest.isPrefixOf_eq hmark

theorem head?_iff (h : Beside slack s s') {c : Char} (hc : c ≠ ')') :
    s'.rest.head? = some c ↔ (bare s s').head? = some c := by
  rcases h.extends_bare with hrest | hrest
  · rw [← hrest]
  · exact hrest.head?_iff hc

end Beside

/-! ### Steps -/

theorem precedes_pure (h : Beside slack s s') (hb : s'.rest.length ≤ bound) (a : α) :
    Precedes slack bound s s' (pure a) (pure a) := by
  intro b t' ht
  cases ht
  exact ⟨hb, s, h, fun u hu => ⟨u, hu, rfl⟩⟩

theorem precedes_refuse (e : PatternError) (m : Read α) :
    Precedes slack bound s s' m (refuse e) := by
  intro a t' ht
  cases ht

theorem precedes_error_bind {e : PatternError} {m' : Read α} (h : m' s' = .error e)
    (k' : α → Read β) (m : Read β) : Precedes slack bound s s' m (m' >>= k') := by
  intro b u' hu
  obtain ⟨a, t', hmt, -⟩ := run_bind_eq_ok.mp hu
  rw [h] at hmt
  cases hmt

theorem precedes_refuse_bind (e : PatternError) (k' : α → Read β) (m : Read β) :
    Precedes slack bound s s' m (refuse e >>= k') :=
  precedes_error_bind rfl k' m

theorem precedes_mono {k : Nat} {m m' : Read α} (hk : bound ≤ k)
    (h : Precedes slack bound s s' m m') : Precedes slack k s s' m m' := by
  intro a t' ht
  obtain ⟨hlen, hread⟩ := h a t' ht
  exact ⟨Nat.le_trans hlen hk, hread⟩

/-- A lost reading stays lost, whatever the first reader would have done. -/
theorem precedes_of_lost {m₀ m m' : Read α} (h : Precedes slack bound none s' m₀ m') :
    Precedes slack bound s s' m m' := by
  intro a t' ht
  obtain ⟨hlen, t, hbeside, hread⟩ := h a t' ht
  cases t with
  | none => exact ⟨hlen, none, hbeside, fun u hu => by cases hu⟩
  | some u =>
      obtain ⟨v, hv, -⟩ := hread u rfl
      cases hv

/-- From one step to the next the slack may change, and so may the bound. -/
theorem precedes_bind {slack' bound' : Nat} {m m' : Read α} {k k' : α → Read β}
    (hm : Precedes slack bound s s' m m')
    (hk : ∀ a t t', m' s' = .ok (a, t') → Beside slack t t' → t'.rest.length ≤ bound →
      Precedes slack' bound' t t' (k a) (k' a)) :
    Precedes slack' bound' s s' (m >>= k) (m' >>= k') := by
  intro b u' hu
  obtain ⟨a, t', hmt, hku⟩ := run_bind_eq_ok.mp hu
  obtain ⟨hlen, t, hbeside, hread⟩ := hm a t' hmt
  obtain ⟨hlen', u, hbeside', hread'⟩ := hk a t t' hmt hbeside hlen b u' hku
  refine ⟨hlen', u, hbeside', fun w hw => ?_⟩
  obtain ⟨x, hx, hkx⟩ := hread' w hw
  obtain ⟨v, hv, hmv⟩ := hread x hx
  exact ⟨v, hv, run_bind_eq_ok.mpr ⟨a, x, hmv, hkx⟩⟩

/-- What comes after a step past the end of the pattern is lost too. -/
theorem precedes_bind_of_lost {slack' bound' : Nat} {m₀ m' : Read α} {k' : α → Read β} {m : Read β}
    (hm : Precedes slack bound none s' m₀ m')
    (hk : ∀ a t', Beside slack none t' → t'.rest.length ≤ bound →
      Precedes slack' bound' none t' (k' a) (k' a)) :
    Precedes slack' bound' s s' m (m' >>= k') := by
  intro b u' hu
  obtain ⟨a, t', hmt, hku⟩ := run_bind_eq_ok.mp hu
  obtain ⟨hlen, t, hbeside, hread⟩ := hm a t' hmt
  cases t with
  | none => exact precedes_of_lost (hk a t' hbeside hlen) b u' hku
  | some w =>
      obtain ⟨v, hv, -⟩ := hread w rfl
      cases hv

theorem precedes_lift (h : Beside slack s s') (hb : s'.rest.length ≤ bound)
    (x : Except PatternError α) : Precedes slack bound s s' (liftM x) (liftM x) := by
  cases x with
  | error e => exact precedes_refuse e _
  | ok a => exact precedes_pure h hb a

theorem precedes_ite {p p' : Prop} [Decidable p] [Decidable p'] {m m' k k' : Read α}
    (hp : p' ↔ p) (hthen : p → Precedes slack bound s s' m m')
    (helse : ¬ p → Precedes slack bound s s' k k') :
    Precedes slack bound s s' (if p then m else k) (if p' then m' else k') := by
  by_cases h : p
  · rw [if_pos h, if_pos (hp.mpr h)]
    exact hthen h
  · rw [if_neg h, if_neg (fun h' => h (hp.mp h'))]
    exact helse h

theorem precedes_rest_bind {k k' : List Char → Read β}
    (hk : Precedes slack bound s s' (k (bare s s')) (k' s'.rest)) :
    Precedes slack bound s s' (rest >>= k) (rest >>= k') := by
  intro b u' hu
  obtain ⟨hlen, u, hbeside, hread⟩ := hk b u' hu
  refine ⟨hlen, u, hbeside, fun w hw => ?_⟩
  obtain ⟨v, hv, hkv⟩ := hread w hw
  cases hv
  exact ⟨v, rfl, hkv⟩

/-- The next character is the same, or it is the parenthesis where the pattern ends. -/
theorem precedes_peek_bind {slack' : Nat} (h : Beside slack s s') {k k' : Option Char → Read β}
    (hsame : ∀ o, s'.rest.head? = o → Precedes slack' bound s s' (k o) (k' o))
    (hparen : s'.rest = [')'] → Precedes slack' bound s s' (k none) (k' (some ')'))) :
    Precedes slack' bound s s' (peek? >>= k) (peek? >>= k') := by
  have hpeek : ∀ (f : Option Char → Read β) (v : Source), (peek? >>= f) v = f v.rest.head? v :=
    fun _ _ => rfl
  have hread : ∃ o, Precedes slack' bound s s' (k o) (k' s'.rest.head?) ∧
      ∀ v ∈ s, v.rest.head? = o := by
    cases s with
    | none => exact ⟨_, hsame _ rfl, fun v hv => by cases hv⟩
    | some v =>
        cases hv : v.rest with
        | nil =>
            have hrest : s'.rest = [')'] := by rw [h.2, hv]; rfl
            refine ⟨none, ?_, fun w hw => by cases hw; rw [hv]; rfl⟩
            rw [hrest]
            exact hparen hrest
        | cons c cs =>
            refine ⟨_, hsame _ rfl, fun w hw => ?_⟩
            cases hw
            rw [h.2, hv]
            rfl
  obtain ⟨o, hk, ho⟩ := hread
  intro b u' hu
  obtain ⟨hlen, u, hbeside, hread⟩ := hk b u' hu
  refine ⟨hlen, u, hbeside, fun w hw => ?_⟩
  obtain ⟨v, hv, hkv⟩ := hread w hw
  refine ⟨v, hv, ?_⟩
  rw [hpeek, ho v hv]
  exact hkv

/-- The end is where it was, but for the parenthesis where the pattern ends. -/
theorem precedes_atEnd_bind {slack' : Nat} (h : Beside slack s s') {k k' : Bool → Read β}
    (hend : s'.rest = [] → Precedes slack' bound s s' (k true) (k' true))
    (hmore : s'.rest ≠ [] → Precedes slack' bound s s' (k false) (k' false))
    (hparen : s'.rest = [')'] → Precedes slack' bound s s' (k true) (k' false)) :
    Precedes slack' bound s s' (atEnd >>= k) (atEnd >>= k') := by
  have hatEnd : ∀ f : Bool → Read β,
      (atEnd >>= f) = (peek? >>= fun o => f o.isNone) := by
    intro f
    funext v
    show f v.rest.isEmpty v = f v.rest.head?.isNone v
    cases v.rest <;> rfl
  rw [hatEnd, hatEnd]
  refine precedes_peek_bind h (fun o ho => ?_) hparen
  cases o with
  | none => exact hend (List.head?_eq_none_iff.mp ho)
  | some c => exact hmore fun hnil => by rw [hnil] at ho; cases ho

theorem precedes_goOn {slack' : Nat} {cs cs' : List Char} (h : Beside slack s s')
    (hb : cs'.length ≤ bound)
    (hcs : (∃ v, s = some v ∧ cs' = cs ++ [')']) ∨ cs'.length ≤ slack') :
    Precedes slack' bound s s' (goOn cs) (goOn cs') := by
  intro a t' ht
  cases ht
  rcases hcs with ⟨v, rfl, rfl⟩ | hlost
  · refine ⟨hb, some { v with rest := cs }, ⟨h.1, rfl⟩, fun u hu => ?_⟩
    cases hu
    exact ⟨v, rfl, rfl⟩
  · exact ⟨hb, none, hlost, fun u hu => by cases hu⟩

/-- A character less is left, past the end of the pattern too. -/
theorem precedes_skip_slack (h : Beside (slack + 1) s s') (hb : s'.rest.length ≤ bound + 1) :
    Precedes slack bound s s' skip skip := by
  have htail : s'.rest.tail.length = s'.rest.length - 1 := List.length_tail
  refine precedes_rest_bind (precedes_goOn h (by omega) ?_)
  cases s with
  | none =>
      have hlen : s'.rest.length ≤ slack + 1 := h
      exact Or.inr (by omega)
  | some v =>
      show (∃ w, some v = some w ∧ s'.rest.tail = v.rest.tail ++ [')']) ∨ _
      rw [h.2]
      cases v.rest with
      | nil => exact Or.inr (Nat.zero_le _)
      | cons c cs => exact Or.inl ⟨v, rfl, rfl⟩

theorem precedes_skip (h : Beside slack s s') (hb : s'.rest.length ≤ bound + 1) :
    Precedes slack bound s s' skip skip :=
  precedes_skip_slack (h.weaken (Nat.le_succ _)) hb

theorem precedes_skipIf (h : Beside slack s s') (hb : s'.rest.length ≤ bound) {mark : List Char}
    (hmark : ')' ∉ mark) : Precedes slack bound s s' (skipIf mark) (skipIf mark) := by
  have hdrop : (s'.rest.drop mark.length).length ≤ s'.rest.length := by simp
  unfold skipIf
  apply precedes_rest_bind
  rw [h.isPrefixOf_eq hmark]
  split
  · rename_i hprefix
    have hgoOn : Precedes slack bound s s' (goOn ((bare s s').drop mark.length))
        (goOn (s'.rest.drop mark.length)) := by
      refine precedes_goOn h (Nat.le_trans hdrop hb) ?_
      cases s with
      | none => exact Or.inr (Nat.le_trans hdrop h)
      | some v =>
          -- The mark is all in front of the parenthesis.
          obtain ⟨after, hafter⟩ := List.isPrefixOf_iff_prefix.mp hprefix
          have hv : v.rest = mark ++ after := hafter.symm
          refine Or.inl ⟨v, rfl, ?_⟩
          show s'.rest.drop mark.length = v.rest.drop mark.length ++ [')']
          rw [h.2, hv, List.append_assoc, List.drop_left, List.drop_left]
    exact precedes_bind hgoOn fun _ _ _ _ h hb => precedes_pure h hb true
  · exact precedes_pure h hb false

theorem precedes_skipGap (h : Beside slack s s') (hb : s'.rest.length ≤ bound) (verbose : Bool) :
    Precedes slack bound s s' (skipGap verbose) (skipGap verbose) := by
  have hgap := length_afterGap_le false s'.rest
  cases verbose with
  | false => exact precedes_pure h hb ()
  | true =>
      refine precedes_rest_bind (precedes_goOn h (Nat.le_trans hgap hb) ?_)
      cases s with
      | none => exact Or.inr (Nat.le_trans hgap h)
      | some v =>
          show (∃ w, some v = some w ∧ afterGap false s'.rest = afterGap false v.rest ++ [')']) ∨ _
          rw [h.2]
          rcases (Extends.of_append v.rest).afterGap false with happend | ⟨-, hnil⟩
          · exact Or.inl ⟨v, rfl, happend⟩
          · exact Or.inr (by rw [hnil]; exact Nat.zero_le _)

theorem precedes_skipWithGap_slack (h : Beside (slack + 1) s s')
    (hb : s'.rest.length ≤ bound + 1) (verbose : Bool) :
    Precedes slack bound s s' (skipWithGap verbose) (skipWithGap verbose) :=
  precedes_bind (precedes_skip_slack h hb) fun _ _ _ _ h hb => precedes_skipGap h hb verbose

theorem precedes_skipWithGap (h : Beside slack s s') (hb : s'.rest.length ≤ bound + 1)
    (verbose : Bool) : Precedes slack bound s s' (skipWithGap verbose) (skipWithGap verbose) :=
  precedes_skipWithGap_slack (h.weaken (Nat.le_succ _)) hb verbose

theorem precedes_skipWithGap_pred (h : Beside slack s s') (verbose : Bool) :
    Precedes slack (s'.rest.length - 1) s s' (skipWithGap verbose) (skipWithGap verbose) :=
  precedes_skipWithGap h (by omega) verbose

/-! ### Fuel -/

/-- Without the parenthesis a reader needs less fuel; a lost one may be given any. -/
theorem precedes_of_fuel (reader : Nat → Read α) {m' : Read α} {fuel k : Nat}
    (hfuel : ∀ v ∈ s, v.rest.length + k ≤ fuel)
    (hread : ∀ f, (bare s s').length + k ≤ f → Precedes slack bound s s' (reader f) m') :
    Precedes slack bound s s' (reader fuel) m' := by
  cases s with
  | none => exact precedes_of_lost (hread _ (Nat.le_refl _))
  | some v => exact hread fuel (hfuel v rfl)

theorem fuel_of_lost (fuel : Nat) : ∀ v ∈ (none : Option Source), v.rest.length + 1 ≤ fuel := by
  rintro v ⟨⟩

/--
A reader with fuel for all that is left, which looks at each next character and stops at
the end of the pattern.
-/
theorem precedes_of_enough_fuel (reader : Nat → Read α) {k : Nat → Option Char → Read α}
    {stop : α} (hzero : reader 0 = pure stop) (hsucc : ∀ fuel, reader (fuel + 1) = peek? >>= k fuel)
    (hstop : ∀ fuel o, o = some ')' ∨ o = none → k fuel o = pure stop)
    (hstep : ∀ fuel fuel' c (s : Option Source) (s' : Source), Beside slack s s' →
      (∀ (t : Option Source) (t' : Source), Beside slack t t' →
        t'.rest.length ≤ s'.rest.length - 1 →
        Precedes slack t'.rest.length t t' (reader fuel) (reader fuel')) →
      Precedes slack s'.rest.length s s' (k fuel (some c)) (k fuel' (some c)))
    (h : Beside slack s s') {fuel fuel' : Nat} (hfuel : ∀ v ∈ s, v.rest.length ≤ fuel)
    (hfuel' : s'.rest.length ≤ fuel') :
    Precedes slack s'.rest.length s s' (reader fuel) (reader fuel') := by
  induction fuel' generalizing s s' fuel with
  | zero =>
      have hnil : s'.rest = [] := List.length_eq_zero_iff.mp (Nat.le_zero.mp hfuel')
      cases s with
      | none =>
          have hlost : Precedes slack s'.rest.length none s' (reader 0) (reader 0) := by
            rw [hzero]
            exact precedes_pure h (Nat.le_refl _) stop
          exact precedes_of_lost hlost
      | some v => simp [h.2] at hnil
  | succ fuel' ih =>
      refine precedes_of_fuel (k := 0) reader hfuel fun f hlen => ?_
      have hlen' := h.length_le_bare
      cases f with
      | zero =>
          -- Without the parenthesis nothing is left, so nothing else can be next.
          have hnil : bare s s' = [] := List.length_eq_zero_iff.mp (Nat.le_zero.mp hlen)
          have hhead : s'.rest.head? = some ')' ∨ s'.rest.head? = none := by
            rcases h.extends_bare with hrest | hrest
            · rw [hrest, hnil]
              exact Or.inr rfl
            · rw [hnil] at hrest
              rcases Extends.nil_iff.mp hrest with hrest | hrest <;> rw [hrest] <;> simp
          intro a t' ht
          rw [hsucc] at ht
          rw [hzero]
          exact precedes_pure h (Nat.le_refl _) stop a t'
            ((congrFun (hstop fuel' _ hhead) s').symm.trans ht)
      | succ f =>
          rw [hsucc, hsucc]
          refine precedes_peek_bind h (fun o _ => ?_) (fun _ => ?_)
          · cases o with
            | none =>
                rw [hstop f none (Or.inr rfl), hstop fuel' none (Or.inr rfl)]
                exact precedes_pure h (Nat.le_refl _) stop
            | some c =>
                refine hstep f fuel' c s s' h fun t t' ht hless => ?_
                have hfuel := ht.succ_length_le_of_mem (show t'.rest.length ≤ f + 1 by omega)
                exact ih ht (fun w hw => Nat.le_of_succ_le_succ (hfuel w hw)) (by omega)
          · rw [hstop f none (Or.inr rfl), hstop fuel' _ (Or.inl rfl)]
            exact precedes_pure h (Nat.le_refl _) stop

/-! ### Numbers -/

theorem precedes_decimalDigits (h : Beside slack s s') (verbose : Bool) {fuel fuel' : Nat}
    (hfuel : ∀ v ∈ s, v.rest.length ≤ fuel) (hfuel' : s'.rest.length ≤ fuel') :
    Precedes slack s'.rest.length s s' (decimalDigits verbose fuel)
      (decimalDigits verbose fuel') := by
  refine precedes_of_enough_fuel (decimalDigits verbose) rfl (fun _ => rfl) ?_ ?_ h hfuel hfuel'
  · rintro _ _ (rfl | rfl) <;> rfl
  · intro fuel fuel' c s s' h ih
    dsimp only
    split
    · refine precedes_bind (precedes_skipWithGap_pred h verbose) fun _ _ _ _ h hb => ?_
      refine precedes_bind (ih _ _ h hb) fun _ _ _ _ h hb' => ?_
      exact precedes_pure h (by omega) _
    · exact precedes_pure h (Nat.le_refl _) []

theorem precedes_skipBlanksWithGaps (h : Beside slack s s') (verbose : Bool) {fuel fuel' : Nat}
    (hfuel : ∀ v ∈ s, v.rest.length ≤ fuel) (hfuel' : s'.rest.length ≤ fuel') :
    Precedes slack s'.rest.length s s' (skipBlanksWithGaps verbose fuel)
      (skipBlanksWithGaps verbose fuel') := by
  refine precedes_of_enough_fuel (skipBlanksWithGaps verbose) rfl (fun _ => rfl) ?_ ?_ h hfuel
    hfuel'
  · rintro _ _ (rfl | rfl) <;> rfl
  · intro fuel fuel' c s s' h ih
    dsimp only
    split
    · refine precedes_bind (precedes_skipWithGap_pred h verbose) fun _ _ _ _ h hb => ?_
      exact precedes_mono (by omega) (ih _ _ h hb)
    · exact precedes_pure h (Nat.le_refl _) ()

theorem precedes_skipBlanks (h : Beside slack s s') (hb : s'.rest.length ≤ bound) :
    Precedes slack bound s s' skipBlanks skipBlanks := by
  have hle : (Text.trimStart s'.rest).length ≤ s'.rest.length :=
    (List.dropWhile_sublist _).length_le
  refine precedes_rest_bind (precedes_goOn h (Nat.le_trans hle hb) ?_)
  cases s with
  | none => exact Or.inr (Nat.le_trans hle h)
  | some v =>
      show (∃ w, some v = some w ∧ Text.trimStart s'.rest = Text.trimStart v.rest ++ [')']) ∨ _
      rw [h.2]
      rcases (Extends.of_append v.rest).trimStart with happend | ⟨-, hnil⟩
      · exact Or.inl ⟨v, rfl, happend⟩
      · exact Or.inr (by rw [hnil]; exact Nat.zero_le _)

theorem precedes_decimal (h : Beside slack s s') (hb : s'.rest.length ≤ bound) (verbose : Bool) :
    Precedes slack bound s s' (decimal verbose) (decimal verbose) := by
  unfold decimal
  refine precedes_bind (precedes_skipBlanks h hb) fun _ _ _ _ h hb => ?_
  apply precedes_rest_bind
  refine precedes_bind (precedes_decimalDigits h verbose Beside.length_le_bare_of_mem
    (Nat.le_refl _)) fun ds _ _ _ h hb' => ?_
  apply precedes_rest_bind
  refine precedes_bind (precedes_skipBlanksWithGaps h verbose Beside.length_le_bare_of_mem
    (Nat.le_refl _)) fun _ _ _ _ h hb'' => ?_
  dsimp only
  split <;> exact precedes_pure h (by omega) _

/-! ### Hexadecimal escapes -/

theorem precedes_hexChar (h : Beside slack s s') (hb : s'.rest.length ≤ bound) (k : Nat) :
    Precedes slack bound s s' (hexChar k) (hexChar k) := by
  unfold hexChar
  split
  · exact precedes_pure h hb _
  · exact precedes_refuse _ _

theorem precedes_fixedHexDigits (h : Beside slack s s') (hb : s'.rest.length ≤ bound)
    (verbose : Bool) (count : Nat) (first : Bool) :
    Precedes slack bound s s' (fixedHexDigits verbose count first)
      (fixedHexDigits verbose count first) := by
  induction count generalizing s s' first with
  | zero => exact precedes_pure h hb []
  | succ count ih =>
      have hdigit : ∀ {s : Option Source} {s' : Source}, Beside slack s s' →
          s'.rest.length ≤ bound →
          Precedes slack bound s s' (fixedHexDigits verbose (count + 1) true)
            (fixedHexDigits verbose (count + 1) true) := by
        intro s s' h hb
        refine precedes_peek_bind h (fun o _ => ?_) (fun _ => precedes_refuse_bind _ _ _)
        dsimp only
        split
        · exact precedes_refuse _ _
        · split
          · exact precedes_refuse_bind _ _ _
          · refine precedes_bind (ih h hb false) fun _ _ _ _ h hb => ?_
            exact precedes_pure h hb _
      cases first with
      | true => exact hdigit h hb
      | false =>
          refine precedes_bind (precedes_skipWithGap h (Nat.le_succ_of_le hb) verbose)
            fun _ _ _ _ h hb => ?_
          exact hdigit h hb

theorem precedes_bracedHexDigits (h : Beside slack s s') (hb : s'.rest.length ≤ bound)
    (verbose : Bool) {fuel fuel' : Nat} (hfuel : ∀ v ∈ s, v.rest.length + 1 ≤ fuel) :
    Precedes slack bound s s' (bracedHexDigits verbose fuel) (bracedHexDigits verbose fuel') := by
  induction fuel' generalizing s s' fuel with
  | zero => exact precedes_refuse _ _
  | succ fuel' ih =>
      refine precedes_of_fuel (bracedHexDigits verbose) hfuel fun f hlen => ?_
      obtain ⟨f, rfl⟩ := Nat.exists_eq_add_one.mpr (Nat.zero_lt_of_lt hlen)
      unfold bracedHexDigits
      have hbare := h.length_le_bare
      refine precedes_bind (precedes_skipWithGap_pred h verbose) fun _ t t' _ h hb' => ?_
      refine precedes_peek_bind h (fun o _ => ?_) (fun _ => precedes_refuse_bind _ _ _)
      split
      · exact precedes_refuse _ _
      · exact precedes_pure h (by omega) []
      · dsimp only
        split
        · exact precedes_refuse_bind _ _ _
        · have hfuel := h.succ_length_le_of_mem (show _ ≤ f by omega)
          refine precedes_bind (ih h (by omega) hfuel) fun _ _ _ _ h hb => ?_
          exact precedes_pure h hb _

/-- The parenthesis is no digit. -/
theorem fixedHexDigits_of_paren (h : s'.rest = [')']) (verbose : Bool) {count : Nat}
    (hcount : 0 < count) : fixedHexDigits verbose count true s' = .error .hexDigitInvalid := by
  obtain ⟨count, rfl⟩ := Nat.exists_eq_add_one.mpr hcount
  obtain ⟨left, names⟩ := s'
  obtain rfl : left = [')'] := h
  rfl

theorem precedes_hexEscape (h : Beside slack s s') (hb : s'.rest.length ≤ bound + 1)
    (verbose : Bool) (letter : Char) :
    Precedes slack bound s s' (hexEscape verbose letter) (hexEscape verbose letter) := by
  unfold hexEscape
  refine precedes_bind (precedes_skipWithGap h hb verbose) fun _ _ _ _ h hb => ?_
  refine precedes_peek_bind h (fun o _ => ?_) (fun hrest => ?_)
  · split
    · exact precedes_refuse _ _
    · apply precedes_rest_bind
      refine precedes_bind (precedes_bracedHexDigits h hb verbose
        Beside.succ_length_le_bare_of_mem) fun ds _ _ _ h hb => ?_
      refine precedes_bind (precedes_skipWithGap h (Nat.le_succ_of_le hb) verbose)
        fun _ _ _ _ h hb => ?_
      dsimp only
      split
      · exact precedes_refuse_bind _ _ _
      · refine precedes_bind (precedes_hexChar h hb _) fun _ _ _ _ h hb => ?_
        exact precedes_pure h hb _
    · refine precedes_bind (precedes_fixedHexDigits h hb verbose _ true) fun ds _ _ _ h hb => ?_
      refine precedes_bind (precedes_skipWithGap h (Nat.le_succ_of_le hb) verbose)
        fun _ _ _ _ h hb => ?_
      refine precedes_bind (precedes_hexChar h hb _) fun _ _ _ _ h hb => ?_
      exact precedes_pure h hb _
  · exact precedes_error_bind (fixedHexDigits_of_paren hrest verbose (by split_ifs <;> decide)) _ _

/-! ### Word boundaries with a name -/

theorem precedes_boundaryName (h : Beside slack s s') (verbose : Bool) {fuel fuel' : Nat}
    (hfuel : ∀ v ∈ s, v.rest.length ≤ fuel) (hfuel' : s'.rest.length ≤ fuel') :
    Precedes slack s'.rest.length s s' (boundaryName verbose fuel)
      (boundaryName verbose fuel') := by
  refine precedes_of_enough_fuel (boundaryName verbose) rfl (fun _ => rfl) ?_ ?_ h hfuel hfuel'
  · rintro _ _ (rfl | rfl) <;> rfl
  · intro fuel fuel' c s s' h ih
    dsimp only
    split
    · refine precedes_bind (precedes_skipWithGap_pred h verbose) fun _ _ _ _ h hb => ?_
      refine precedes_bind (ih _ _ h hb) fun _ _ _ _ h hb' => ?_
      exact precedes_pure h (by omega) _
    · exact precedes_pure h (Nat.le_refl _) []

/-- The text after a gap, in a verbose pattern. -/
def gapped (verbose : Bool) (cs : List Char) : List Char :=
  if verbose then afterGap false cs else cs

theorem length_gapped_le (verbose : Bool) (cs : List Char) :
    (gapped verbose cs).length ≤ cs.length := by
  cases verbose with
  | false => exact Nat.le_refl _
  | true => exact length_afterGap_le false cs

theorem gapped_append (verbose : Bool) (cs : List Char) :
    gapped verbose (cs ++ [')']) = gapped verbose cs ++ [')'] ∨
      gapped verbose (cs ++ [')']) = [] := by
  cases verbose with
  | false => exact Or.inl rfl
  | true =>
      rcases (Extends.of_append cs).afterGap false with happend | ⟨-, hnil⟩
      · exact Or.inl happend
      · exact Or.inr hnil

/-- What is read of a named boundary once it is known that there is a name. -/
def nameOfBoundary (verbose : Bool) : Read Assertion := do
  let name ← boundaryName verbose (← rest).length
  if (← peek?) ≠ some '\x7d' then refuse .boundaryUnclosed
  skip
  match boundary? name with
  | some a => return a
  | none => refuse .boundaryUnknown

theorem namedBoundary_of_head?_ne {v : Source} (h : v.rest.head? ≠ some '\x7b') (verbose : Bool) :
    namedBoundary verbose v = .ok (.boundary, v) := by
  show (if v.rest.head? ≠ some '\x7b' then pure Assertion.boundary else _ : Read Assertion) v = _
  rw [if_pos h]
  rfl

theorem namedBoundary_of_cons {v : Source} {cs : List Char} (h : v.rest = '\x7b' :: cs)
    (verbose : Bool) : namedBoundary verbose v =
      match (gapped verbose cs).head? with
      | none => .error .boundaryUnfinished
      | some c =>
        if isBoundaryChar c then nameOfBoundary verbose { v with rest := gapped verbose cs }
        else .ok (.boundary, v) := by
  obtain ⟨left, names⟩ := v
  obtain rfl : left = '\x7b' :: cs := h
  have hgap : skipWithGap verbose ⟨'\x7b' :: cs, names⟩ = .ok ((), ⟨gapped verbose cs, names⟩) := by
    cases verbose <;> rfl
  have hread : namedBoundary verbose ⟨'\x7b' :: cs, names⟩
      = (skipWithGap verbose >>= fun _ => peek? >>= fun o =>
          match o with
          | none => refuse .boundaryUnfinished
          | some c =>
            if ¬ isBoundaryChar c then do
              goOn ('\x7b' :: cs)
              return Assertion.boundary
            else nameOfBoundary verbose : Read Assertion) ⟨'\x7b' :: cs, names⟩ := rfl
  rw [hread, run_bind_of_ok hgap]
  have hpeek : peek? ⟨gapped verbose cs, names⟩
      = .ok ((gapped verbose cs).head?, ⟨gapped verbose cs, names⟩) := rfl
  rw [run_bind_of_ok hpeek]
  cases (gapped verbose cs).head? with
  | none => rfl
  | some c =>
      dsimp only
      cases isBoundaryChar c <;> rfl

theorem precedes_nameOfBoundary (h : Beside slack s s') (hb : s'.rest.length ≤ bound)
    (verbose : Bool) :
    Precedes slack bound s s' (nameOfBoundary verbose) (nameOfBoundary verbose) := by
  unfold nameOfBoundary
  apply precedes_rest_bind
  refine precedes_bind (precedes_boundaryName h verbose Beside.length_le_bare_of_mem
    (Nat.le_refl _)) fun name _ _ _ h hb' => ?_
  refine precedes_peek_bind h (fun o _ => ?_) (fun _ => precedes_refuse_bind _ _ _)
  refine precedes_ite Iff.rfl (fun _ => precedes_refuse_bind _ _ _) (fun _ => ?_)
  refine precedes_bind (precedes_skip h (Nat.le_succ_of_le hb')) fun _ _ _ _ h hb'' => ?_
  split
  · exact precedes_pure h (by omega) _
  · exact precedes_refuse _ _

/-- Before the end of the pattern the braces hold the same text without the parenthesis. -/
theorem gapped_of_beside {v : Source} {cs' : List Char} {c : Char}
    (hrest : s'.rest = v.rest ++ [')']) (hopen : s'.rest = '\x7b' :: cs') {verbose : Bool}
    (hfree : gapped verbose cs' ≠ [')']) (hc : (gapped verbose cs').head? = some c) :
    ∃ cs, v.rest = '\x7b' :: cs ∧ (gapped verbose cs).head? = some c ∧
      gapped verbose cs' = gapped verbose cs ++ [')'] := by
  rw [hrest] at hopen
  cases hv : v.rest with
  | nil =>
      rw [hv] at hopen
      cases hopen
  | cons d cs =>
      rw [hv] at hopen
      rw [List.cons_append] at hopen
      obtain ⟨rfl, rfl⟩ := List.cons.inj hopen
      refine ⟨cs, rfl, ?_⟩
      rcases gapped_append verbose cs with happend | hnil
      · cases hcs : gapped verbose cs with
        | nil => exact absurd (by rw [happend, hcs]; rfl) hfree
        | cons e es =>
            rw [happend, hcs] at hc
            exact ⟨hc, by rw [happend, hcs]⟩
      · rw [hnil] at hc
        cases hc

theorem precedes_namedBoundary (h : Beside slack s s') (hb : s'.rest.length ≤ bound)
    (verbose : Bool) (hfree : ∀ cs, s'.rest = '\x7b' :: cs → gapped verbose cs ≠ [')']) :
    Precedes slack bound s s' (namedBoundary verbose) (namedBoundary verbose) := by
  intro a t' ht
  by_cases hopen : s'.rest.head? = some '\x7b'
  · obtain ⟨cs', hcs'⟩ := List.head?_eq_some_iff.mp hopen
    have hlen : (gapped verbose cs').length ≤ s'.rest.length := by
      rw [hcs']
      exact Nat.le_succ_of_le (length_gapped_le verbose cs')
    rw [namedBoundary_of_cons hcs'] at ht
    cases hc : (gapped verbose cs').head? with
    | none =>
        rw [hc] at ht
        cases ht
    | some c =>
        have hbare : ∀ v ∈ s, ∃ cs, v.rest = '\x7b' :: cs ∧ (gapped verbose cs).head? = some c ∧
            gapped verbose cs' = gapped verbose cs ++ [')'] := by
          rintro v rfl
          exact gapped_of_beside h.2 hcs' (hfree cs' hcs') hc
        simp only [hc] at ht
        by_cases hname : isBoundaryChar c = true
        · rw [if_pos hname] at ht
          have hbeside : Beside slack (s.map fun v => { v with rest := gapped verbose v.rest.tail })
              { s' with rest := gapped verbose cs' } := by
            cases s with
            | none => exact Nat.le_trans hlen h
            | some v =>
                obtain ⟨cs, hv, -, happend⟩ := hbare v rfl
                refine ⟨h.1, ?_⟩
                show gapped verbose cs' = gapped verbose v.rest.tail ++ [')']
                rw [hv]
                exact happend
          obtain ⟨hlen', t, hbt, hread⟩ :=
            precedes_nameOfBoundary hbeside (Nat.le_trans hlen hb) verbose a t' ht
          refine ⟨hlen', t, hbt, fun u hu => ?_⟩
          obtain ⟨w, hw, hwu⟩ := hread u hu
          obtain ⟨v, hv, rfl⟩ := Option.map_eq_some_iff.mp hw
          obtain ⟨cs, hcs, hcs'', -⟩ := hbare v hv
          refine ⟨v, hv, ?_⟩
          rw [namedBoundary_of_cons hcs]
          simp only [hcs'', if_pos hname]
          rw [hcs] at hwu
          exact hwu
        · rw [if_neg hname] at ht
          cases ht
          refine ⟨hb, s, h, fun v hv => ⟨v, hv, ?_⟩⟩
          obtain ⟨cs, hcs, hcs'', -⟩ := hbare v hv
          rw [namedBoundary_of_cons hcs]
          simp only [hcs'', if_neg hname]
  · rw [namedBoundary_of_head?_ne hopen] at ht
    cases ht
    refine ⟨hb, s, h, fun v hv => ⟨v, hv, namedBoundary_of_head?_ne (fun hhead => ?_) verbose⟩⟩
    cases hv
    exact hopen ((h.head?_iff (by decide)).mpr hhead)

/-! ### Properties -/

theorem precedes_propertyName (h : Beside (slack + 1) s s') (hb : s'.rest.length ≤ bound + 1)
    (verbose : Bool) {fuel fuel' : Nat} (hfuel : ∀ v ∈ s, v.rest.length + 1 ≤ fuel) :
    Precedes slack bound s s' (propertyName verbose fuel) (propertyName verbose fuel') := by
  induction fuel' generalizing s s' fuel with
  | zero => exact precedes_refuse _ _
  | succ fuel' ih =>
      refine precedes_of_fuel (propertyName verbose) hfuel fun f hlen => ?_
      obtain ⟨f, rfl⟩ := Nat.exists_eq_add_one.mpr (Nat.zero_lt_of_lt hlen)
      unfold propertyName
      have hbare := h.length_le_bare
      have hskip := precedes_skipWithGap_slack h
        (show s'.rest.length ≤ min bound (s'.rest.length - 1) + 1 by omega) verbose
      refine precedes_bind hskip fun _ t t' _ h hb' => ?_
      have hweak := h.weaken (Nat.le_succ slack)
      refine precedes_peek_bind h (fun o _ => ?_) (fun hrest => ?_)
      · split
        · exact precedes_refuse _ _
        · exact precedes_pure h (by omega) []
        · have hfuel := h.succ_length_le_of_mem (show _ ≤ f by omega)
          refine precedes_bind (ih hweak (by omega) hfuel) fun _ _ _ _ h hb => ?_
          exact precedes_pure h hb _
      · -- The parenthesis is taken for a part of the name.
        have hread := ih (Beside.lost_of_paren slack hrest) (by omega) (fuel_of_lost 0)
        exact precedes_bind_of_lost hread fun name _ h hb => precedes_pure h hb (')' :: name)

theorem precedes_propertyQuery (h : Beside slack s s') (hb : s'.rest.length ≤ bound + 1)
    (verbose : Bool) :
    Precedes slack bound s s' (propertyQuery verbose) (propertyQuery verbose) := by
  unfold propertyQuery
  refine precedes_bind (precedes_skipWithGap h hb verbose) fun _ t t' _ h hb => ?_
  refine precedes_peek_bind h (fun o _ => ?_) (fun hrest => ?_)
  · split
    · exact precedes_refuse _ _
    · apply precedes_rest_bind
      refine precedes_bind (precedes_propertyName (h.weaken (Nat.le_succ slack))
        (Nat.le_succ_of_le hb) verbose Beside.succ_length_le_bare_of_mem) fun name _ _ _ h hb => ?_
      refine precedes_bind (precedes_skip h (Nat.le_succ_of_le hb)) fun _ _ _ _ h hb => ?_
      exact precedes_pure h hb _
    · exact precedes_refuse _ _
    · refine precedes_bind (precedes_skipWithGap h (Nat.le_succ_of_le hb) verbose)
        fun _ _ _ _ h hb => ?_
      exact precedes_pure h hb _
  · have hread := precedes_skipWithGap_slack (Beside.lost_of_paren slack hrest)
      (Nat.le_succ_of_le hb) verbose
    exact precedes_bind_of_lost hread fun _ _ h hb => precedes_pure h hb _

/-! ### Escapes and other parts -/

/--
That after a backslash the text has a boundary whose opening brace is the last thing in
front of the parenthesis.
-/
def CutBoundary (verbose : Bool) (cs : List Char) : Prop :=
  ∃ inner, cs.tail = 'b' :: '\x7b' :: inner ∧ gapped verbose inner = [')']

theorem precedes_escape (h : Beside slack s s') (hb : s'.rest.length ≤ bound + 1) (verbose : Bool)
    (hfree : ¬ CutBoundary verbose s'.rest) :
    Precedes slack bound s s' (escape verbose) (escape verbose) := by
  unfold escape
  refine precedes_bind (precedes_skip h hb) fun _ t t' hskip h hb => ?_
  obtain rfl : { s' with rest := s'.rest.tail } = t' := by cases hskip; rfl
  refine precedes_peek_bind h (fun o ho => ?_) (fun hrest => ?_)
  · cases o with
    | none => exact precedes_refuse _ _
    | some c =>
        dsimp only
        split_ifs with _ _ _ _ hboundary
        · exact precedes_refuse _ _
        · refine precedes_bind (precedes_hexEscape h (Nat.le_succ_of_le hb) verbose c)
            fun _ _ _ _ h hb => ?_
          exact precedes_pure h hb _
        · refine precedes_bind (precedes_propertyQuery h (Nat.le_succ_of_le hb) verbose)
            fun _ _ _ _ h hb => ?_
          exact precedes_pure h hb _
        all_goals
          refine precedes_bind (precedes_skip h (Nat.le_succ_of_le hb)) fun _ _ _ hskip' h hb => ?_
        · exact precedes_pure h hb _
        · refine precedes_bind (precedes_namedBoundary h hb verbose fun cs hcs hcut => ?_)
            fun _ _ _ _ h hb => ?_
          · cases hskip'
            obtain ⟨after, hafter⟩ := List.head?_eq_some_iff.mp ho
            refine hfree ⟨cs, ?_, hcut⟩
            change s'.rest.tail = c :: after at hafter
            change s'.rest.tail.tail = '\x7b' :: cs at hcs
            rw [hafter, List.tail_cons] at hcs
            rw [hafter, hcs, hboundary]
          · exact precedes_pure h hb _
        · split
          · exact precedes_pure h hb _
          · exact precedes_pure h hb _
          · exact precedes_pure h hb _
          · exact precedes_refuse _ _
  · -- The parenthesis is escaped.
    have hskip' := precedes_skip_slack (Beside.lost_of_paren slack hrest)
      (Nat.le_succ_of_le hb)
    exact precedes_bind_of_lost hskip' fun _ _ h hb => precedes_pure h hb _

theorem precedes_primitive (h : Beside slack s s') (hb : s'.rest.length ≤ bound + 1)
    (verbose : Bool) (hparen : s'.rest.head? ≠ some ')')
    (hfree : s'.rest.head? = some '\\' → ¬ CutBoundary verbose s'.rest) :
    Precedes slack bound s s' (primitive verbose) (primitive verbose) := by
  unfold primitive
  refine precedes_peek_bind h (fun o ho => ?_) (fun hrest => absurd (by rw [hrest]; rfl) hparen)
  split
  · have hnil : s'.rest = [] := List.head?_eq_none_iff.mp ho
    exact precedes_pure h (by rw [hnil]; exact Nat.zero_le _) _
  · exact precedes_escape h hb verbose (hfree ho)
  · refine precedes_bind (precedes_skip h hb) fun _ _ _ _ h hb => ?_
    exact precedes_pure h hb _

end NameLint.Regex

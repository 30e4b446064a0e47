/-
Reading a pattern that has a closing parenthesis after it.

Naming patterns are put between parentheses as text, so what such a text means depends on
how its inside is read when it does not end with the pattern.  A reader that ends well on
a pattern ends in the same way when a closing parenthesis stands after the pattern: no
reader looks for an end that the parenthesis would hide, and none takes the parenthesis
for a part of what it reads.

A verbose pattern may end in a comment, which then runs on over the parenthesis.  `Trails`
allows for this: the parenthesis stands after what is left, or nothing is left and it has
been passed over.

`Follows` is the relation between two readings, and it is shown for each reader from the
same for the readers it calls.  Readers with fuel are compared at different fuel, as there
is more to read for the second one.
-/
import Mathlib.Data.List.Basic
import NameLint.Proofs.Except
import NameLint.Regex.Parser

namespace NameLint.Regex

/-! ### The relation -/

/-- That a closing parenthesis stands after a text, or after nothing and has been passed over. -/
def Extends (cs cs' : List Char) : Prop :=
  cs' = cs ++ [')'] ∨ (cs = [] ∧ cs' = [])

/-- That a closing parenthesis stands after what is left of a pattern. -/
structure Trails (s s' : Source) : Prop where
  /-- The same groups have been named. -/
  names : s'.names = s.names
  /-- What is left, without and with the parenthesis. -/
  rest : Extends s.rest s'.rest

/-- That a reading which ends well has the same result when the parenthesis stands there. -/
def Follows {α : Type} (s s' : Source) (m m' : Read α) : Prop :=
  ∀ a t, m s = .ok (a, t) → ∃ t', m' s' = .ok (a, t') ∧ Trails t t'

variable {α β : Type} {s s' : Source} {cs cs' : List Char}

/-! ### Texts -/

namespace Extends

@[simp]
theorem nil_iff : Extends [] cs' ↔ cs' = [')'] ∨ cs' = [] := by
  simp [Extends]

@[simp]
theorem cons_iff {c : Char} : Extends (c :: cs) cs' ↔ cs' = c :: (cs ++ [')']) := by
  simp [Extends]

theorem of_append (cs : List Char) : Extends cs (cs ++ [')']) :=
  Or.inl rfl

theorem tail (h : Extends cs cs') : Extends cs.tail cs'.tail := by
  cases cs with
  | nil => rcases nil_iff.mp h with rfl | rfl <;> exact Or.inr ⟨rfl, rfl⟩
  | cons c cs =>
      obtain rfl := cons_iff.mp h
      exact of_append cs

theorem drop (h : Extends cs cs') (n : Nat) : Extends (cs.drop n) (cs'.drop n) := by
  induction n generalizing cs cs' with
  | zero => exact h
  | succ n ih =>
      rw [← List.drop_tail, ← List.drop_tail]
      exact ih h.tail

theorem ne_nil (h : Extends cs cs') (hne : cs ≠ []) : cs' ≠ [] := by
  rcases h with rfl | ⟨rfl, -⟩
  · simp
  · exact absurd rfl hne

theorem length_le (h : Extends cs cs') : cs.length ≤ cs'.length := by
  rcases h with rfl | ⟨rfl, rfl⟩ <;> simp

/-- The first character of a text is the same, unless it is to be the parenthesis. -/
theorem head?_iff (h : Extends cs cs') {c : Char} (hc : c ≠ ')') :
    cs'.head? = some c ↔ cs.head? = some c := by
  cases cs with
  | nil => rcases nil_iff.mp h with rfl | rfl <;> simp [Ne.symm hc]
  | cons d cs =>
      obtain rfl := cons_iff.mp h
      rfl

/-- What a text begins with does not depend on the parenthesis. -/
theorem isPrefixOf_eq (h : Extends cs cs') {mark : List Char} (hmark : ')' ∉ mark) :
    mark.isPrefixOf cs' = mark.isPrefixOf cs := by
  induction mark generalizing cs cs' with
  | nil => simp
  | cons m mark ih =>
      rw [List.mem_cons, not_or] at hmark
      cases cs with
      | nil =>
          rcases nil_iff.mp h with rfl | rfl
          · simp [List.isPrefixOf, Ne.symm hmark.1]
          · rfl
      | cons c cs =>
          obtain rfl := cons_iff.mp h
          rw [List.isPrefixOf, List.isPrefixOf, ih (of_append cs) hmark.2]

theorem afterGap (h : Extends cs cs') (comment : Bool) :
    Extends (afterGap comment cs) (afterGap comment cs') := by
  induction cs generalizing cs' comment with
  | nil =>
      rcases nil_iff.mp h with rfl | rfl
      · cases comment
        · exact nil_iff.mpr (Or.inl rfl)
        · exact nil_iff.mpr (Or.inr rfl)
      · exact nil_iff.mpr (Or.inr rfl)
  | cons c cs ih =>
      obtain rfl := cons_iff.mp h
      cases comment with
      | true => exact ih (of_append cs) _
      | false =>
          simp only [Regex.afterGap]
          split_ifs
          · exact ih (of_append cs) false
          · exact ih (of_append cs) true
          · exact of_append (c :: cs)

theorem trimStart (h : Extends cs cs') : Extends (Text.trimStart cs) (Text.trimStart cs') := by
  induction cs generalizing cs' with
  | nil =>
      rcases nil_iff.mp h with rfl | rfl
      · exact nil_iff.mpr (Or.inl rfl)
      · exact nil_iff.mpr (Or.inr rfl)
  | cons c cs ih =>
      obtain rfl := cons_iff.mp h
      simp only [Text.trimStart, List.dropWhile_cons]
      split_ifs
      · exact ih (of_append cs)
      · exact of_append (c :: cs)

end Extends

/-! ### Steps -/

theorem follows_pure (h : Trails s s') (a : α) : Follows s s' (pure a) (pure a) := by
  intro b t ht
  cases ht
  exact ⟨s', rfl, h⟩

theorem follows_refuse (e : PatternError) (m' : Read α) : Follows s s' (refuse e) m' := by
  intro a t ht
  cases ht

theorem follows_lift (h : Trails s s') (x : Except PatternError α) :
    Follows s s' (liftM x) (liftM x) := by
  cases x with
  | error e => exact follows_refuse e _
  | ok a => exact follows_pure h a

theorem follows_bind {m m' : Read α} {k k' : α → Read β} (hm : Follows s s' m m')
    (hk : ∀ a t t', m s = .ok (a, t) → Trails t t' → Follows t t' (k a) (k' a)) :
    Follows s s' (m >>= k) (m' >>= k') := by
  intro b u hu
  obtain ⟨a, t, hmt, hku⟩ := run_bind_eq_ok.mp hu
  obtain ⟨t', hmt', ht⟩ := hm a t hmt
  obtain ⟨u', hku', hut⟩ := hk a t t' hmt ht b u hku
  exact ⟨u', run_bind_eq_ok.mpr ⟨a, t', hmt', hku'⟩, hut⟩

theorem follows_refuse_bind (e : PatternError) (k : α → Read β) (m' : Read β) :
    Follows s s' (refuse e >>= k) m' := by
  intro b t ht
  cases ht

theorem follows_ite {p p' : Prop} [Decidable p] [Decidable p'] {m m' n n' : Read α} (hp : p' ↔ p)
    (hthen : p → Follows s s' m m') (helse : ¬ p → Follows s s' n n') :
    Follows s s' (if p then m else n) (if p' then m' else n') := by
  by_cases h : p
  · rw [if_pos h, if_pos (hp.mpr h)]
    exact hthen h
  · rw [if_neg h, if_neg (fun h' => h (hp.mp h'))]
    exact helse h

theorem follows_get_bind {k k' : Source → Read β} (hk : Follows s s' (k s) (k' s')) :
    Follows s s' (get >>= k) (get >>= k') :=
  hk

theorem follows_rest_bind {k k' : List Char → Read β} (hk : Follows s s' (k s.rest) (k' s'.rest)) :
    Follows s s' (rest >>= k) (rest >>= k') :=
  hk

/-- At the end there is no next character, or perhaps the parenthesis. -/
theorem follows_peek_at_end (h : Trails s s') (hnil : s.rest = []) {m : Read β}
    {k' : Option Char → Read β}
    (hk : ∀ o, o = some ')' ∨ o = none → Follows s s' m (k' o)) :
    Follows s s' m (peek? >>= k') := by
  show Follows s s' m (k' s'.rest.head?)
  have hrest := h.rest
  rw [hnil] at hrest
  rcases Extends.nil_iff.mp hrest with h' | h' <;> rw [h']
  · exact hk _ (Or.inl rfl)
  · exact hk _ (Or.inr rfl)

/-- Before the end the next character is the same. -/
theorem follows_peek_bind (h : Trails s s') {k k' : Option Char → Read β}
    (hsome : ∀ c, s.rest.head? = some c → Follows s s' (k (some c)) (k' (some c)))
    (hnone : s.rest = [] → ∀ o, o = some ')' ∨ o = none → Follows s s' (k none) (k' o)) :
    Follows s s' (peek? >>= k) (peek? >>= k') := by
  cases hs : s.rest with
  | nil =>
      have hk : (peek? >>= k) s = k none s := by
        show k s.rest.head? s = k none s
        rw [hs]
        rfl
      intro a t ht
      exact follows_peek_at_end h hs (hnone hs) a t (hk ▸ ht)
  | cons c cs =>
      show Follows s s' (k s.rest.head?) (k' s'.rest.head?)
      have hrest := h.rest
      rw [hs] at hrest
      rw [hs, Extends.cons_iff.mp hrest]
      exact hsome c (by rw [hs]; rfl)

/-- The end is where it was, or perhaps behind the parenthesis. -/
theorem follows_atEnd_bind (h : Trails s s') {k k' : Bool → Read β}
    (hmore : s.rest ≠ [] → Follows s s' (k false) (k' false))
    (hend : s.rest = [] → ∀ b, Follows s s' (k true) (k' b)) :
    Follows s s' (atEnd >>= k) (atEnd >>= k') := by
  show Follows s s' (k s.rest.isEmpty) (k' s'.rest.isEmpty)
  obtain ⟨left, names⟩ := s
  cases left with
  | nil => exact hend rfl _
  | cons c cs =>
      rw [Extends.cons_iff.mp h.rest]
      exact hmore (List.cons_ne_nil c cs)

theorem follows_goOn (h : Trails s s') (hcs : Extends cs cs') :
    Follows s s' (goOn cs) (goOn cs') := by
  intro a t ht
  cases ht
  exact ⟨{ s' with rest := cs' }, rfl, h.names, hcs⟩

theorem follows_skip (h : Trails s s') : Follows s s' skip skip :=
  follows_goOn h h.rest.tail

theorem follows_skipIf (h : Trails s s') {mark : List Char} (hmark : ')' ∉ mark) :
    Follows s s' (skipIf mark) (skipIf mark) := by
  unfold skipIf
  apply follows_rest_bind
  rw [h.rest.isPrefixOf_eq hmark]
  split
  · refine follows_bind (follows_goOn h (h.rest.drop _)) fun _ _ _ _ h => ?_
    exact follows_pure h true
  · exact follows_pure h false

theorem follows_skipGap (h : Trails s s') (verbose : Bool) :
    Follows s s' (skipGap verbose) (skipGap verbose) := by
  cases verbose with
  | false => exact follows_pure h ()
  | true => exact follows_goOn h (h.rest.afterGap false)

theorem follows_skipWithGap (h : Trails s s') (verbose : Bool) :
    Follows s s' (skipWithGap verbose) (skipWithGap verbose) :=
  follows_bind (follows_skip h) fun _ _ _ _ h => follows_skipGap h verbose

/-! ### Numbers -/

theorem length_afterGap_le (comment : Bool) (cs : List Char) :
    (afterGap comment cs).length ≤ cs.length := by
  induction cs generalizing comment with
  | nil => simp [afterGap]
  | cons c cs ih =>
      cases comment with
      | true => exact Nat.le_succ_of_le (ih _)
      | false =>
          rw [afterGap]
          split_ifs
          · exact Nat.le_succ_of_le (ih false)
          · exact Nat.le_succ_of_le (ih true)
          · exact Nat.le_refl _

/-- Passing over a character leaves less to read, so that less fuel is needed. -/
theorem length_of_skipWithGap {verbose : Bool} {a : Unit} {t : Source} {fuel : Nat}
    (ht : skipWithGap verbose s = .ok (a, t)) (hfuel : s.rest.length ≤ fuel + 1) :
    t.rest.length ≤ fuel := by
  have htail : s.rest.tail.length ≤ fuel := by
    rw [List.length_tail]
    omega
  cases verbose with
  | false =>
      cases ht
      exact htail
  | true =>
      cases ht
      exact Nat.le_trans (length_afterGap_le false _) htail

/--
A reader with fuel for all that is left, which looks at each next character and stops at
the end of the pattern.  It stops at the parenthesis just as well, and what it does with
another character is shown with the fuel that is left for the rest.
-/
theorem follows_of_enough_fuel (reader : Nat → Read α) {k : Nat → Option Char → Read α} {stop : α}
    (hzero : reader 0 = pure stop) (hsucc : ∀ fuel, reader (fuel + 1) = peek? >>= k fuel)
    (hstop : ∀ fuel o, o = some ')' ∨ o = none → k fuel o = pure stop)
    (hstep : ∀ fuel fuel' c (s s' : Source), Trails s s' → s.rest.length ≤ fuel + 1 →
      (∀ t t' : Source, Trails t t' → t.rest.length ≤ fuel →
        Follows t t' (reader fuel) (reader fuel')) →
      Follows s s' (k fuel (some c)) (k fuel' (some c)))
    (h : Trails s s') {fuel fuel' : Nat} (hfuel : s.rest.length ≤ fuel) (hle : fuel ≤ fuel') :
    Follows s s' (reader fuel) (reader fuel') := by
  induction fuel generalizing s s' fuel' with
  | zero =>
      -- Nothing is left, so all that the other reading can meet is the parenthesis.
      have hnil := List.length_eq_zero_iff.mp (Nat.le_zero.mp hfuel)
      rw [hzero]
      cases fuel' with
      | zero =>
          rw [hzero]
          exact follows_pure h stop
      | succ fuel' =>
          rw [hsucc]
          refine follows_peek_at_end h hnil fun o ho => ?_
          rw [hstop fuel' o ho]
          exact follows_pure h stop
  | succ fuel ih =>
      obtain ⟨fuel', rfl⟩ := Nat.exists_eq_add_one.mpr (Nat.zero_lt_of_lt hle)
      rw [hsucc, hsucc]
      refine follows_peek_bind h (fun c _ => ?_) (fun _ o ho => ?_)
      · exact hstep fuel fuel' c s s' h hfuel fun t t' ht hlen => ih ht hlen (by omega)
      · rw [hstop fuel none (Or.inr rfl), hstop fuel' o ho]
        exact follows_pure h stop

theorem follows_decimalDigits (h : Trails s s') (verbose : Bool) {fuel fuel' : Nat}
    (hfuel : s.rest.length ≤ fuel) (hle : fuel ≤ fuel') :
    Follows s s' (decimalDigits verbose fuel) (decimalDigits verbose fuel') := by
  refine follows_of_enough_fuel (decimalDigits verbose) rfl (fun _ => rfl) ?_ ?_ h hfuel hle
  · rintro _ _ (rfl | rfl) <;> rfl
  · intro fuel fuel' c s s' h hfuel ih
    dsimp only
    split
    · refine follows_bind (follows_skipWithGap h verbose) fun _ _ _ ht h => ?_
      refine follows_bind (ih _ _ h (length_of_skipWithGap ht hfuel)) fun _ _ _ _ h => ?_
      exact follows_pure h _
    · exact follows_pure h []

theorem follows_skipBlanksWithGaps (h : Trails s s') (verbose : Bool) {fuel fuel' : Nat}
    (hfuel : s.rest.length ≤ fuel) (hle : fuel ≤ fuel') :
    Follows s s' (skipBlanksWithGaps verbose fuel) (skipBlanksWithGaps verbose fuel') := by
  refine follows_of_enough_fuel (skipBlanksWithGaps verbose) rfl (fun _ => rfl) ?_ ?_ h hfuel hle
  · rintro _ _ (rfl | rfl) <;> rfl
  · intro fuel fuel' c s s' h hfuel ih
    dsimp only
    split
    · refine follows_bind (follows_skipWithGap h verbose) fun _ _ _ ht h => ?_
      exact ih _ _ h (length_of_skipWithGap ht hfuel)
    · exact follows_pure h ()

theorem follows_decimal (h : Trails s s') (verbose : Bool) :
    Follows s s' (decimal verbose) (decimal verbose) := by
  unfold decimal
  refine follows_bind (follows_goOn h h.rest.trimStart) fun _ _ _ _ h => ?_
  apply follows_rest_bind
  refine follows_bind (follows_decimalDigits h verbose (Nat.le_refl _) h.rest.length_le)
    fun ds _ _ _ h => ?_
  apply follows_rest_bind
  refine follows_bind (follows_skipBlanksWithGaps h verbose (Nat.le_refl _) h.rest.length_le)
    fun _ _ _ _ h => ?_
  dsimp only
  split <;> exact follows_pure h _

/-! ### Hexadecimal escapes -/

theorem follows_hexChar (h : Trails s s') (n : Nat) : Follows s s' (hexChar n) (hexChar n) := by
  unfold hexChar
  split
  · exact follows_pure h _
  · exact follows_refuse _ _

theorem follows_fixedHexDigits (h : Trails s s') (verbose : Bool) (count : Nat) (first : Bool) :
    Follows s s' (fixedHexDigits verbose count first) (fixedHexDigits verbose count first) := by
  induction count generalizing s s' first with
  | zero => exact follows_pure h []
  | succ count ih =>
      have hdigit : ∀ {s s' : Source}, Trails s s' →
          Follows s s' (fixedHexDigits verbose (count + 1) true)
            (fixedHexDigits verbose (count + 1) true) := by
        intro s s' h
        refine follows_peek_bind h (fun c _ => ?_) (fun _ _ _ => follows_refuse _ _)
        dsimp only
        split
        · exact follows_refuse_bind _ _ _
        · refine follows_bind (ih h false) fun _ _ _ _ h => ?_
          exact follows_pure h _
      cases first with
      | true => exact hdigit h
      | false =>
          refine follows_bind (follows_skipWithGap h verbose) fun _ _ _ _ h => ?_
          exact hdigit h

theorem follows_bracedHexDigits (h : Trails s s') (verbose : Bool) {fuel fuel' : Nat}
    (hle : fuel ≤ fuel') :
    Follows s s' (bracedHexDigits verbose fuel) (bracedHexDigits verbose fuel') := by
  induction fuel generalizing s s' fuel' with
  | zero => exact follows_refuse _ _
  | succ fuel ih =>
      obtain ⟨fuel', rfl⟩ := Nat.exists_eq_add_one.mpr (Nat.zero_lt_of_lt hle)
      unfold bracedHexDigits
      refine follows_bind (follows_skipWithGap h verbose) fun _ _ _ _ h => ?_
      refine follows_peek_bind h (fun c _ => ?_) (fun _ _ _ => follows_refuse _ _)
      split
      · exact follows_refuse _ _
      · exact follows_pure h []
      · dsimp only
        split
        · exact follows_refuse_bind _ _ _
        · refine follows_bind (ih h (by omega)) fun _ _ _ _ h => ?_
          exact follows_pure h _

theorem follows_hexEscape (h : Trails s s') (verbose : Bool) (letter : Char) :
    Follows s s' (hexEscape verbose letter) (hexEscape verbose letter) := by
  unfold hexEscape
  refine follows_bind (follows_skipWithGap h verbose) fun _ _ _ _ h => ?_
  refine follows_peek_bind h (fun c _ => ?_) (fun _ _ _ => follows_refuse _ _)
  split
  · exact follows_refuse _ _
  · apply follows_rest_bind
    refine follows_bind (follows_bracedHexDigits h verbose (Nat.succ_le_succ h.rest.length_le))
      fun ds _ _ _ h => ?_
    refine follows_bind (follows_skipWithGap h verbose) fun _ _ _ _ h => ?_
    dsimp only
    split
    · exact follows_refuse_bind _ _ _
    · refine follows_bind (follows_hexChar h _) fun _ _ _ _ h => ?_
      exact follows_pure h _
  · refine follows_bind (follows_fixedHexDigits h verbose _ true) fun ds _ _ _ h => ?_
    refine follows_bind (follows_skipWithGap h verbose) fun _ _ _ _ h => ?_
    refine follows_bind (follows_hexChar h _) fun _ _ _ _ h => ?_
    exact follows_pure h _

/-! ### Escapes -/

theorem follows_boundaryName (h : Trails s s') (verbose : Bool) {fuel fuel' : Nat}
    (hfuel : s.rest.length ≤ fuel) (hle : fuel ≤ fuel') :
    Follows s s' (boundaryName verbose fuel) (boundaryName verbose fuel') := by
  refine follows_of_enough_fuel (boundaryName verbose) rfl (fun _ => rfl) ?_ ?_ h hfuel hle
  · rintro _ _ (rfl | rfl) <;> rfl
  · intro fuel fuel' c s s' h hfuel ih
    dsimp only
    split
    · refine follows_bind (follows_skipWithGap h verbose) fun _ _ _ ht h => ?_
      refine follows_bind (ih _ _ h (length_of_skipWithGap ht hfuel)) fun _ _ _ _ h => ?_
      exact follows_pure h _
    · exact follows_pure h []

theorem follows_namedBoundary (h : Trails s s') (verbose : Bool) :
    Follows s s' (namedBoundary verbose) (namedBoundary verbose) := by
  have hstart := h.rest
  unfold namedBoundary
  apply follows_rest_bind
  refine follows_ite (not_congr (hstart.head?_iff (by decide))) (fun _ => ?_) (fun _ => ?_)
  · exact follows_pure h _
  · refine follows_bind (follows_skipWithGap h verbose) fun _ _ _ _ h => ?_
    refine follows_peek_bind h (fun c _ => ?_) (fun _ _ _ => follows_refuse _ _)
    dsimp only
    split
    · refine follows_bind (follows_goOn h hstart) fun _ _ _ _ h => ?_
      exact follows_pure h _
    · apply follows_rest_bind
      refine follows_bind (follows_boundaryName h verbose (Nat.le_refl _) h.rest.length_le)
        fun name _ _ _ h => ?_
      refine follows_peek_bind h (fun c _ => ?_) (fun _ _ _ => follows_refuse_bind _ _ _)
      split
      · exact follows_refuse_bind _ _ _
      · refine follows_bind (follows_skip h) fun _ _ _ _ h => ?_
        split
        · exact follows_pure h _
        · exact follows_refuse _ _

theorem follows_propertyName (h : Trails s s') (verbose : Bool) {fuel fuel' : Nat}
    (hle : fuel ≤ fuel') :
    Follows s s' (propertyName verbose fuel) (propertyName verbose fuel') := by
  induction fuel generalizing s s' fuel' with
  | zero => exact follows_refuse _ _
  | succ fuel ih =>
      obtain ⟨fuel', rfl⟩ := Nat.exists_eq_add_one.mpr (Nat.zero_lt_of_lt hle)
      unfold propertyName
      refine follows_bind (follows_skipWithGap h verbose) fun _ _ _ _ h => ?_
      refine follows_peek_bind h (fun c _ => ?_) (fun _ _ _ => follows_refuse _ _)
      split
      · exact follows_refuse _ _
      · exact follows_pure h []
      · refine follows_bind (ih h (by omega)) fun _ _ _ _ h => ?_
        exact follows_pure h _

theorem follows_propertyQuery (h : Trails s s') (verbose : Bool) :
    Follows s s' (propertyQuery verbose) (propertyQuery verbose) := by
  unfold propertyQuery
  refine follows_bind (follows_skipWithGap h verbose) fun _ _ _ _ h => ?_
  refine follows_peek_bind h (fun c _ => ?_) (fun _ _ _ => follows_refuse _ _)
  split
  · exact follows_refuse _ _
  · apply follows_rest_bind
    refine follows_bind (follows_propertyName h verbose (Nat.succ_le_succ h.rest.length_le))
      fun name _ _ _ h => ?_
    refine follows_bind (follows_skip h) fun _ _ _ _ h => ?_
    exact follows_pure h _
  · exact follows_refuse _ _
  · refine follows_bind (follows_skipWithGap h verbose) fun _ _ _ _ h => ?_
    exact follows_pure h _

theorem follows_escape (h : Trails s s') (verbose : Bool) :
    Follows s s' (escape verbose) (escape verbose) := by
  unfold escape
  refine follows_bind (follows_skip h) fun _ _ _ _ h => ?_
  refine follows_peek_bind h (fun c _ => ?_) (fun _ _ _ => follows_refuse _ _)
  dsimp only
  split_ifs
  · exact follows_refuse _ _
  · refine follows_bind (follows_hexEscape h verbose c) fun _ _ _ _ h => ?_
    exact follows_pure h _
  · refine follows_bind (follows_propertyQuery h verbose) fun _ _ _ _ h => ?_
    exact follows_pure h _
  all_goals refine follows_bind (follows_skip h) fun _ _ _ _ h => ?_
  · exact follows_pure h _
  · refine follows_bind (follows_namedBoundary h verbose) fun _ _ _ _ h => ?_
    exact follows_pure h _
  · split
    · exact follows_pure h _
    · exact follows_pure h _
    · exact follows_pure h _
    · exact follows_refuse _ _

theorem follows_primitive (h : Trails s s') (hmore : s.rest ≠ []) (verbose : Bool) :
    Follows s s' (primitive verbose) (primitive verbose) := by
  unfold primitive
  refine follows_peek_bind h (fun c hc => ?_) (fun hnil => absurd hnil hmore)
  split
  · exact follows_pure h _
  · exact follows_escape h verbose
  · refine follows_bind (follows_skip h) fun _ _ _ _ h => ?_
    exact follows_pure h _

end NameLint.Regex

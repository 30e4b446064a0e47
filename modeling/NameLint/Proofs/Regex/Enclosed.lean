/-
Reading a pattern between parentheses.

Classes, groups and the bodies of groups are read alike with a closing parenthesis after
the pattern, as the smaller parts are.  `follows_body` is what this comes to: a text that
is a pattern by itself reads the same as the inside of a group.  Nothing in it closes the
group early, and nothing in it reaches out of the group.

A text that is no pattern by itself may still be read between parentheses, and nothing is
said about such a text.
-/
import NameLint.Proofs.Regex.Trailing

namespace NameLint.Regex

variable {s s' : Source} {cs cs' : List Char}

/-! ### Texts in classes -/

theorem second?_iff (h : Extends cs cs') (verbose : Bool) {c : Char} (hc : c ≠ ')') :
    second? verbose cs' = some c ↔ second? verbose cs = some c := by
  cases cs with
  | nil =>
      rcases Extends.nil_iff.mp h with rfl | rfl
      · cases verbose <;> exact Iff.rfl
      · exact Iff.rfl
  | cons d cs =>
      obtain rfl := Extends.cons_iff.mp h
      cases verbose with
      | false => exact (Extends.of_append cs).head?_iff hc
      | true =>
          have htrim := (Extends.of_append cs).trimStart
          simp only [second?, if_true]
          cases hcs : Text.trimStart cs with
          | nil =>
              rw [hcs] at htrim
              rcases Extends.nil_iff.mp htrim with h' | h' <;> simp [h', Ne.symm hc]
          | cons e es =>
              rw [hcs] at htrim
              rw [Extends.cons_iff.mp htrim]
              by_cases he : e = '#'
              · subst he
                exact (Extends.of_append es).trimStart.head?_iff hc
              · simp [he]

theorem splitAtFirst_colon_append (cs : List Char) :
    splitAtFirst [':'] (cs ++ [')'])
      = (splitAtFirst [':'] cs).map fun p => (p.1, p.2 ++ [')']) := by
  induction cs with
  | nil => rfl
  | cons c cs ih =>
      by_cases hc : c = ':'
      · subst hc
        rfl
      · simp [splitAtFirst, List.isPrefixOf, Ne.symm hc, ih, Function.comp_def]

theorem namedClass?_append (cs : List Char) :
    namedClass? (cs ++ [')']) = (namedClass? cs).map fun p => (p.1, p.2 ++ [')']) := by
  match cs with
  | [] => rfl
  | [c] =>
      by_cases hc : c = '['
      · subst hc
        rfl
      · simp [namedClass?]
  | c :: d :: cs =>
      by_cases hcd : c = '[' ∧ d = ':'
      · obtain ⟨rfl, rfl⟩ := hcd
        have hhead := (Extends.of_append cs).head?_iff (show '^' ≠ ')' by decide)
        have htail : (if cs.head? = some '^' then (cs ++ [')']).tail else cs ++ [')'])
            = (if cs.head? = some '^' then cs.tail else cs) ++ [')'] := by
          split_ifs with hneg
          · cases cs with
            | nil => cases hneg
            | cons e cs => rfl
          · rfl
        simp only [namedClass?, List.cons_append, hhead]
        rw [htail, splitAtFirst_colon_append]
        cases splitAtFirst [':'] (if cs.head? = some '^' then cs.tail else cs) with
        | none => rfl
        | some p =>
            obtain ⟨name, after⟩ := p
            cases after with
            | nil => rfl
            | cons e after =>
                by_cases he : e = ']'
                · subst he
                  simp [Function.comp_def]
                · simp [he]
      · have hnone : ∀ l, namedClass? (c :: d :: l) = none := by
          intro l
          unfold namedClass?
          split
          · rename_i heq
            cases heq
            exact absurd ⟨rfl, rfl⟩ hcd
          · rfl
        rw [List.cons_append, List.cons_append, hnone, hnone]
        rfl

theorem classOp?_append (c : Char) (cs : List Char) :
    classOp? (c :: (cs ++ [')'])) = classOp? (c :: cs) := by
  cases cs with
  | nil =>
      unfold classOp?
      split <;> simp_all
  | cons d cs =>
      unfold classOp?
      split <;> split <;> simp_all

/-! ### Classes -/

theorem follows_classPart (h : Trails s s') (verbose : Bool) :
    Follows s s' (classPart verbose) (classPart verbose) := by
  unfold classPart
  refine follows_peek_bind h (fun c _ => ?_) (fun _ _ _ => follows_refuse _ _)
  split
  · exact follows_refuse _ _
  · exact follows_escape h verbose
  · refine follows_bind (follows_skip h) fun _ _ _ _ h => ?_
    exact follows_pure h _

theorem follows_partClass (h : Trails s s') (e : Expr) :
    Follows s s' (partClass e) (partClass e) := by
  unfold partClass
  split
  · exact follows_pure h _
  · exact follows_pure h _
  · exact follows_refuse _ _

theorem follows_rangeEnd (h : Trails s s') (e : Expr) :
    Follows s s' (rangeEnd e) (rangeEnd e) := by
  unfold rangeEnd
  split
  · exact follows_pure h _
  · exact follows_refuse _ _

theorem follows_classItem (h : Trails s s') (verbose : Bool) :
    Follows s s' (classItem verbose) (classItem verbose) := by
  unfold classItem
  refine follows_bind (follows_classPart h verbose) fun first _ _ _ h => ?_
  refine follows_bind (follows_skipGap h verbose) fun _ t t' _ h => ?_
  apply follows_rest_bind
  by_cases hnil : t.rest = []
  · rw [hnil]
    exact follows_refuse _ _
  have hnil' := h.rest.ne_nil hnil
  refine follows_ite (by simp [hnil, hnil']) (fun _ => follows_refuse _ _) (fun _ => ?_)
  have hsecond : ∀ c, c ≠ ')' →
      (second? verbose t'.rest = some c ↔ second? verbose t.rest = some c) :=
    fun c => second?_iff h.rest verbose
  refine follows_ite (or_congr (not_congr (h.rest.head?_iff (by decide)))
    (or_congr (hsecond _ (by decide)) (hsecond _ (by decide))))
    (fun _ => follows_partClass h first) (fun _ => ?_)
  refine follows_bind (follows_skipWithGap h verbose) fun _ _ _ _ h => ?_
  refine follows_atEnd_bind h (fun _ => ?_) (fun _ _ => follows_refuse_bind _ _ _)
  refine follows_bind (follows_classPart h verbose) fun last _ _ _ h => ?_
  refine follows_bind (follows_rangeEnd h first) fun lo _ _ _ h => ?_
  refine follows_bind (follows_rangeEnd h last) fun hi _ _ _ h => ?_
  dsimp only
  split
  · exact follows_refuse_bind _ _ _
  · exact follows_pure h _

theorem follows_skipInClass (h : Trails s s') (verbose : Bool) :
    Follows s s' (skipInClass verbose) (skipInClass verbose) := by
  unfold skipInClass
  refine follows_bind (follows_skipWithGap h verbose) fun _ _ _ _ h => ?_
  refine follows_atEnd_bind h (fun _ => ?_) (fun _ _ => follows_refuse _ _)
  exact follows_pure h ()

theorem length_of_skipInClass {verbose : Bool} {a : Unit} {t : Source} {fuel : Nat}
    (ht : skipInClass verbose s = .ok (a, t)) (hfuel : s.rest.length ≤ fuel + 1) :
    t.rest.length ≤ fuel := by
  obtain ⟨_, u, hu, hend⟩ := run_bind_eq_ok.mp ht
  have hlen := length_of_skipWithGap hu hfuel
  change (if u.rest.isEmpty = true then refuse .classUnclosed else pure ()) u = _ at hend
  split at hend
  · cases hend
  · cases hend
    exact hlen

theorem follows_leadingHyphens (h : Trails s s') (verbose : Bool) {fuel fuel' : Nat}
    (hfuel : s.rest.length ≤ fuel) (hle : fuel ≤ fuel') :
    Follows s s' (leadingHyphens verbose fuel) (leadingHyphens verbose fuel') := by
  refine follows_of_enough_fuel (leadingHyphens verbose) rfl (fun _ => rfl) ?_ ?_ h hfuel hle
  · rintro _ _ (rfl | rfl) <;> rfl
  · intro fuel fuel' c s s' h hfuel ih
    split
    · refine follows_bind (follows_skipInClass h verbose) fun _ _ _ ht h => ?_
      refine follows_bind (ih _ _ h (length_of_skipInClass ht hfuel)) fun _ _ _ _ h => ?_
      exact follows_pure h _
    · exact follows_pure h []

/-- What is read of the front of a class once it is known whether the class is negated. -/
def frontItems (verbose negated : Bool) : Read (Bool × List ClassExpr) := do
  let hyphens ← leadingHyphens verbose (← rest).length
  if hyphens.isEmpty ∧ (← peek?) = some ']' then
    skipInClass verbose
    return (negated, [.literal ⟨']', false⟩])
  else return (negated, hyphens)

theorem follows_frontItems (h : Trails s s') (verbose negated : Bool) :
    Follows s s' (frontItems verbose negated) (frontItems verbose negated) := by
  unfold frontItems
  apply follows_rest_bind
  refine follows_bind (follows_leadingHyphens h verbose (Nat.le_refl _) h.rest.length_le)
    fun hyphens _ _ _ h => ?_
  refine follows_peek_bind h (fun c _ => ?_) (fun _ o ho => ?_)
  · split
    · refine follows_bind (follows_skipInClass h verbose) fun _ _ _ _ h => ?_
      exact follows_pure h _
    · exact follows_pure h _
  · rcases ho with rfl | rfl <;> simpa using follows_pure h (negated, hyphens)

theorem follows_classFront (h : Trails s s') (verbose : Bool) :
    Follows s s' (classFront verbose) (classFront verbose) := by
  unfold classFront
  refine follows_bind (follows_skipInClass h verbose) fun _ _ _ _ h => ?_
  refine follows_peek_bind h (fun c _ => ?_) (fun _ o ho => ?_)
  · dsimp only
    split
    · refine follows_bind (follows_skipInClass h verbose) fun _ _ _ _ h => ?_
      exact follows_frontItems h verbose _
    · exact follows_frontItems h verbose _
  · rcases ho with rfl | rfl <;> exact follows_frontItems h verbose false

theorem follows_classRest (h : Trails s s') (verbose : Bool) {fuel fuel' : Nat}
    (hle : fuel ≤ fuel') (o : OpenClass) :
    Follows s s' (classRest verbose fuel o) (classRest verbose fuel' o) := by
  induction fuel generalizing s s' fuel' o with
  | zero => exact follows_refuse _ _
  | succ fuel ih =>
      obtain ⟨fuel', rfl⟩ := Nat.exists_eq_add_one.mpr (Nat.zero_lt_of_lt hle)
      unfold classRest
      refine follows_bind (follows_skipGap h verbose) fun _ t t' _ h => ?_
      apply follows_rest_bind
      obtain ⟨left, names⟩ := t
      obtain ⟨left', names'⟩ := t'
      cases left with
      | nil => exact follows_refuse _ _
      | cons c cs =>
          obtain rfl := Extends.cons_iff.mp h.rest
          dsimp only
          by_cases hclose : c = ']'
          · subst hclose
            refine follows_bind (follows_goOn h (.of_append cs)) fun _ _ _ _ h => ?_
            exact follows_pure h _
          by_cases hopen : c = '['
          · subst hopen
            have hnamed := namedClass?_append ('[' :: cs)
            rw [List.cons_append] at hnamed
            rw [hnamed]
            cases namedClass? ('[' :: cs) with
            | some p =>
                refine follows_bind (follows_goOn h (.of_append p.2)) fun _ _ _ _ h => ?_
                exact ih h (by omega) _
            | none =>
                refine follows_bind (follows_classFront h verbose) fun p _ _ _ h => ?_
                refine follows_bind (ih h (by omega) _) fun _ _ _ _ h => ?_
                exact ih h (by omega) _
          · simp only [List.cons.injEq, hclose, hopen, false_and, imp_self, implies_true,
              classOp?_append]
            cases classOp? (c :: cs) with
            | some operation =>
                refine follows_bind (follows_goOn h (h.rest.drop 2)) fun _ _ _ _ h => ?_
                exact ih h (by omega) _
            | none =>
                refine follows_bind (follows_classItem h verbose) fun _ _ _ _ h => ?_
                exact ih h (by omega) _

theorem follows_bracketedClass (h : Trails s s') (verbose : Bool) :
    Follows s s' (bracketedClass verbose) (bracketedClass verbose) := by
  unfold bracketedClass
  refine follows_bind (follows_classFront h verbose) fun p _ _ _ h => ?_
  apply follows_rest_bind
  refine follows_bind (follows_classRest h verbose (Nat.succ_le_succ h.rest.length_le) _)
    fun _ _ _ _ h => ?_
  exact follows_pure h _

/-! ### Repetitions -/

theorem follows_reluctance (h : Trails s s') : Follows s s' reluctance reluctance := by
  refine follows_bind (follows_skipIf h (by decide)) fun _ _ _ _ h => ?_
  exact follows_pure h ()

theorem follows_repetitionSign (h : Trails s s') :
    Follows s s' repetitionSign repetitionSign :=
  follows_bind (follows_skip h) fun _ _ _ _ h => follows_reluctance h

theorem follows_sign (h : Trails s s') (range : Nat × Option Nat) :
    Follows s s' (do repetitionSign; return range) (do repetitionSign; return range) :=
  follows_bind (follows_repetitionSign h) fun _ _ _ _ h => follows_pure h range

theorem follows_settled (h : Trails s s') (x : Except PatternError Nat) :
    Follows s s' (settled x) (settled x) := by
  cases x with
  | ok n => exact follows_pure h n
  | error e => exact follows_refuse _ _

theorem follows_bounds (h : Trails s s') (verbose : Bool) :
    Follows s s' (bounds verbose) (bounds verbose) := by
  unfold bounds
  refine follows_bind (follows_skipWithGap h verbose) fun _ _ _ _ h => ?_
  refine follows_atEnd_bind h (fun _ => ?_) (fun _ _ => follows_refuse_bind _ _ _)
  refine follows_bind (follows_decimal h verbose) fun low _ _ _ h => ?_
  refine follows_peek_bind h (fun c _ => ?_) (fun _ _ _ => follows_refuse _ _)
  split
  · exact follows_refuse _ _
  · refine follows_bind (follows_skipWithGap h verbose) fun _ _ _ _ h => ?_
    refine follows_peek_bind h (fun c _ => ?_) (fun _ _ _ => follows_refuse _ _)
    split
    · exact follows_refuse _ _
    · refine follows_bind (follows_settled h low) fun _ _ _ _ h => ?_
      exact follows_pure h _
    · refine follows_bind (follows_settled h low) fun _ _ _ _ h => ?_
      refine follows_bind (follows_decimal h verbose) fun high _ _ _ h => ?_
      refine follows_bind (follows_settled h high) fun _ _ _ _ h => ?_
      exact follows_pure h _
  · refine follows_bind (follows_settled h low) fun _ _ _ _ h => ?_
    exact follows_pure h _

theorem follows_count (h : Trails s s') (verbose : Bool) :
    Follows s s' (count verbose) (count verbose) := by
  unfold count
  refine follows_bind (follows_bounds h verbose) fun p _ _ _ h => ?_
  refine follows_peek_bind h (fun c _ => ?_) (fun _ _ _ => follows_refuse_bind _ _ _)
  dsimp only
  split
  · exact follows_refuse_bind _ _ _
  · refine follows_bind (follows_skipWithGap h verbose) fun _ _ _ _ h => ?_
    refine follows_bind (follows_reluctance h) fun _ _ _ _ h => ?_
    split
    · exact follows_refuse_bind _ _ _
    · exact follows_pure h _

/-! ### Groups -/

theorem follows_flagsFrom (h : Trails s s') {fuel fuel' : Nat} (hle : fuel ≤ fuel')
    (o : OpenFlags) : Follows s s' (flagsFrom fuel o) (flagsFrom fuel' o) := by
  induction fuel generalizing s s' fuel' o with
  | zero => exact follows_refuse _ _
  | succ fuel ih =>
      obtain ⟨fuel', rfl⟩ := Nat.exists_eq_add_one.mpr (Nat.zero_lt_of_lt hle)
      unfold flagsFrom
      refine follows_peek_bind h (fun c _ => ?_) (fun _ _ _ => follows_refuse _ _)
      dsimp only
      split
      · split
        · exact follows_refuse_bind _ _ _
        · refine follows_bind (follows_skip h) fun _ _ _ _ h => ?_
          exact follows_pure h _
      · refine follows_bind (follows_lift h _) fun o _ _ _ h => ?_
        refine follows_bind (follows_skip h) fun _ _ _ _ h => ?_
        exact ih h (by omega) o

theorem follows_nameChars (h : Trails s s') {fuel fuel' : Nat} (hle : fuel ≤ fuel')
    (first : Bool) : Follows s s' (nameChars fuel first) (nameChars fuel' first) := by
  induction fuel generalizing s s' fuel' first with
  | zero => exact follows_refuse _ _
  | succ fuel ih =>
      obtain ⟨fuel', rfl⟩ := Nat.exists_eq_add_one.mpr (Nat.zero_lt_of_lt hle)
      unfold nameChars
      refine follows_peek_bind h (fun c _ => ?_) (fun _ _ _ => follows_refuse _ _)
      split
      · exact follows_refuse _ _
      · exact follows_pure h []
      · dsimp only
        split
        · exact follows_refuse_bind _ _ _
        · refine follows_bind (follows_skip h) fun _ _ _ _ h => ?_
          refine follows_bind (ih h (by omega) false) fun _ _ _ _ h => ?_
          exact follows_pure h _

theorem follows_addName (h : Trails s s') (name : List Char) :
    Follows s s' (modify fun s => { s with names := name :: s.names })
      (modify fun s => { s with names := name :: s.names }) := by
  intro a t ht
  cases ht
  exact ⟨{ s' with names := name :: s'.names }, rfl, by rw [h.names], h.rest⟩

theorem follows_groupName (h : Trails s s') : Follows s s' groupName groupName := by
  unfold groupName
  apply follows_rest_bind
  refine follows_bind (follows_nameChars h (Nat.succ_le_succ h.rest.length_le) true)
    fun name _ _ _ h => ?_
  refine follows_bind (follows_skip h) fun _ _ _ _ h => ?_
  dsimp only
  split
  · exact follows_refuse_bind _ _ _
  · apply follows_get_bind
    refine follows_ite (by rw [h.names]) (fun _ => follows_refuse_bind _ _ _) (fun _ => ?_)
    exact follows_addName h name

theorem follows_opening (h : Trails s s') (verbose : Bool) :
    Follows s s' (opening verbose) (opening verbose) := by
  unfold opening
  refine follows_bind (follows_skipWithGap h verbose) fun _ _ _ _ h => ?_
  apply follows_rest_bind
  refine follows_ite ?_ (fun _ => follows_refuse _ _) (fun _ => ?_)
  · simp only [List.any_cons, List.any_nil, h.rest.isPrefixOf_eq (show ')' ∉ "?=".toList by decide),
      h.rest.isPrefixOf_eq (show ')' ∉ "?!".toList by decide),
      h.rest.isPrefixOf_eq (show ')' ∉ "?<=".toList by decide),
      h.rest.isPrefixOf_eq (show ')' ∉ "?<!".toList by decide)]
  refine follows_bind (follows_skipIf h (by decide)) fun _ _ _ _ h => ?_
  split
  · refine follows_bind (follows_groupName h) fun _ _ _ _ h => ?_
    exact follows_pure h _
  refine follows_bind (follows_skipIf h (by decide)) fun _ _ _ _ h => ?_
  split
  · refine follows_bind (follows_groupName h) fun _ _ _ _ h => ?_
    exact follows_pure h _
  refine follows_bind (follows_skipIf h (by decide)) fun _ _ _ _ h => ?_
  split
  · refine follows_atEnd_bind h (fun _ => ?_) (fun _ _ => follows_refuse_bind _ _ _)
    apply follows_rest_bind
    refine follows_bind (follows_flagsFrom h (Nat.succ_le_succ h.rest.length_le) {})
      fun p _ _ _ h => ?_
    dsimp only
    split_ifs
    · exact follows_pure h _
    · exact follows_refuse _ _
    · exact follows_pure h _
  · exact follows_pure h _

/-! ### Bodies -/

theorem follows_popRepeatable (h : Trails s s') (o : OpenGroup) :
    Follows s s' o.popRepeatable o.popRepeatable := by
  unfold OpenGroup.popRepeatable
  split
  · split
    · exact follows_pure h _
    · exact follows_refuse _ _
  · exact follows_refuse _ _

theorem follows_repeated (h : Trails s s') (o : OpenGroup) {m : Read (Nat × Option Nat)}
    (hm : ∀ t t', Trails t t' → Follows t t' m m) :
    Follows s s' (o.repeated m) (o.repeated m) := by
  refine follows_bind (follows_popRepeatable h o) fun p _ _ _ h => ?_
  refine follows_bind (hm _ _ h) fun q _ _ _ h => ?_
  exact follows_pure h _

/-- The inside of a group reads the same, whatever fuel there is beyond what is needed. -/
theorem follows_body (h : Trails s s') {fuel fuel' : Nat} (hle : fuel ≤ fuel') (o : OpenGroup) :
    Follows s s' (body fuel o) (body fuel' o) := by
  induction fuel generalizing s s' fuel' o with
  | zero => exact follows_refuse _ _
  | succ fuel ih =>
      obtain ⟨fuel', rfl⟩ := Nat.exists_eq_add_one.mpr (Nat.zero_lt_of_lt hle)
      unfold body
      refine follows_bind (follows_skipGap h o.verbose) fun _ _ _ _ h => ?_
      refine follows_peek_bind h (fun c hc => ?_) (fun _ p hp => ?_)
      · split
        · exact follows_pure h _
        · exact follows_pure h _
        · refine follows_bind (follows_opening h o.verbose) fun begun _ _ _ h => ?_
          cases begun with
          | change change => exact ih h (by omega) _
          | group change =>
              refine follows_bind (ih h (by omega) _) fun inner _ _ _ h => ?_
              refine follows_atEnd_bind h (fun _ => ?_) (fun _ _ => follows_refuse_bind _ _ _)
              refine follows_bind (follows_skip h) fun _ _ _ _ h => ?_
              exact ih h (by omega) _
        · refine follows_bind (follows_skip h) fun _ _ _ _ h => ?_
          exact ih h (by omega) _
        · refine follows_bind (follows_bracketedClass h o.verbose) fun _ _ _ _ h => ?_
          exact ih h (by omega) _
        · refine follows_bind (follows_repeated h o fun _ _ h => follows_sign h _)
            fun _ _ _ _ h => ?_
          exact ih h (by omega) _
        · refine follows_bind (follows_repeated h o fun _ _ h => follows_sign h _)
            fun _ _ _ _ h => ?_
          exact ih h (by omega) _
        · refine follows_bind (follows_repeated h o fun _ _ h => follows_sign h _)
            fun _ _ _ _ h => ?_
          exact ih h (by omega) _
        · refine follows_bind (follows_repeated h o fun _ _ h => follows_count h o.verbose)
            fun _ _ _ _ h => ?_
          exact ih h (by omega) _
        · refine follows_bind (follows_primitive h (by rintro hnil; simp [hnil] at hc) o.verbose)
            fun _ _ _ _ h => ?_
          exact ih h (by omega) _
      · -- What ended with the pattern now ends at the parenthesis.
        rcases hp with rfl | rfl <;> exact follows_pure h _

/-! ### Whole patterns -/

/-- A pattern is read to its end. -/
theorem body_of_parse {text : List Char} {e : Expr} (h : Expr.parse text = .ok e) :
    ∃ t, body (text.length + 1) { verbose := false } ⟨text, []⟩ = .ok (e, t) ∧ t.rest = [] := by
  obtain ⟨e', hrun, hdepth⟩ := bind_eq_ok.mp h
  obtain rfl : e' = e := by
    split at hdepth
    · cases hdepth
      rfl
    · cases hdepth
  obtain ⟨⟨e', u⟩, hpattern, hfst⟩ := bind_eq_ok.mp hrun
  cases hfst
  obtain ⟨inner, t, hbody, hend⟩ := run_bind_eq_ok.mp hpattern
  change (if t.rest.isEmpty = true then pure inner else refuse .groupUnopened) t = _ at hend
  split at hend
  · rename_i hnil
    cases hend
    exact ⟨u, hbody, List.isEmpty_iff.mp hnil⟩
  · cases hend

end NameLint.Regex

/-
Taking a pattern out of parentheses.

What `Enclosed` shows of classes, groups and the bodies of groups is turned round here.
`precedes_body` is what it comes to: if the inside of a group is read up to the parenthesis
that was put after it, or up to one before that, then it is read so by itself.

Inside of a class the parenthesis is a character like any other, so a class that is not
closed goes on over it.  It finds no closing bracket behind it, and that is why a class may
be one character short of the end without having gone wrong yet.
-/
import NameLint.Proofs.Regex.Stripped

namespace NameLint.Regex

variable {α β : Type} {slack bound : Nat} {s : Option Source} {s' : Source}

/-! ### Parts of classes -/

/-- Before the parenthesis a cut boundary is read as one without a name. -/
theorem escape_of_cut {verbose : Bool} (hhead : s'.rest.head? = some '\\')
    (hcut : CutBoundary verbose s'.rest) :
    ∃ inner, gapped verbose inner = [')'] ∧
      escape verbose s' = .ok (.assertion .boundary, { s' with rest := '\x7b' :: inner }) := by
  obtain ⟨inner, htail, hgap⟩ := hcut
  obtain ⟨left, names⟩ := s'
  obtain ⟨cs, rfl⟩ := List.head?_eq_some_iff.mp hhead
  obtain rfl : cs = 'b' :: '\x7b' :: inner := htail
  have hboundary : namedBoundary verbose ⟨'\x7b' :: inner, names⟩
      = .ok (.boundary, ⟨'\x7b' :: inner, names⟩) := by
    rw [namedBoundary_of_cons rfl, hgap]
    rfl
  refine ⟨inner, hgap, ?_⟩
  have hescape : escape verbose ⟨'\\' :: 'b' :: '\x7b' :: inner, names⟩
      = (do return .assertion (← namedBoundary verbose) : Read Expr) ⟨'\x7b' :: inner, names⟩ := rfl
  rw [hescape, run_bind_of_ok hboundary]
  rfl

theorem classPart_of_cut {verbose : Bool} (hhead : s'.rest.head? = some '\\')
    (hcut : CutBoundary verbose s'.rest) :
    ∃ t', classPart verbose s' = .ok (.assertion .boundary, t') := by
  obtain ⟨inner, -, hescape⟩ := escape_of_cut hhead hcut
  obtain ⟨left, names⟩ := s'
  obtain ⟨cs, rfl⟩ := List.head?_eq_some_iff.mp hhead
  exact ⟨_, hescape⟩

theorem precedes_classPart (h : Beside slack s s') (hb : s'.rest.length ≤ bound + 1)
    (verbose : Bool) (hfree : s'.rest.head? = some '\\' → ¬ CutBoundary verbose s'.rest) :
    Precedes slack bound s s' (classPart verbose) (classPart verbose) := by
  unfold classPart
  refine precedes_peek_bind h (fun o ho => ?_) (fun hrest => ?_)
  · split
    · exact precedes_refuse _ _
    · exact precedes_escape h hb verbose (hfree ho)
    · refine precedes_bind (precedes_skip h hb) fun _ _ _ _ h hb => ?_
      exact precedes_pure h hb _
  · -- The parenthesis is taken for a character of the class.
    have hskip := precedes_skip_slack (Beside.lost_of_paren slack hrest) hb
    exact precedes_bind_of_lost hskip fun _ _ h hb => precedes_pure h hb _

theorem precedes_partClass (h : Beside slack s s') (hb : s'.rest.length ≤ bound) (e : Expr) :
    Precedes slack bound s s' (partClass e) (partClass e) := by
  unfold partClass
  split
  · exact precedes_pure h hb _
  · exact precedes_pure h hb _
  · exact precedes_refuse _ _

theorem precedes_rangeEnd (h : Beside slack s s') (hb : s'.rest.length ≤ bound) (e : Expr) :
    Precedes slack bound s s' (rangeEnd e) (rangeEnd e) := by
  unfold rangeEnd
  split
  · exact precedes_pure h hb _
  · exact precedes_refuse _ _

/-- What is read of a range after its hyphen. -/
def rangeFrom (verbose : Bool) (first : Expr) : Read ClassExpr := do
  let last ← classPart verbose
  let lo ← rangeEnd first
  let hi ← rangeEnd last
  if hi.char < lo.char then refuse .classRangeInvalid
  return .range lo hi

theorem precedes_rangeFrom (h : Beside slack s s') (hb : s'.rest.length ≤ bound + 1)
    (verbose : Bool) (first : Expr) :
    Precedes slack bound s s' (rangeFrom verbose first) (rangeFrom verbose first) := by
  by_cases hcut : s'.rest.head? = some '\\' ∧ CutBoundary verbose s'.rest
  · -- A boundary is no end of a range.
    obtain ⟨t', hpart⟩ := classPart_of_cut hcut.1 hcut.2
    intro a u' hu
    obtain ⟨last, t, hlast, hu⟩ := run_bind_eq_ok.mp hu
    rw [hpart] at hlast
    cases hlast
    obtain ⟨lo, v, -, hu⟩ := run_bind_eq_ok.mp hu
    cases hu
  · unfold rangeFrom
    refine precedes_bind (precedes_classPart h hb verbose fun hhead hcut' => hcut ⟨hhead, hcut'⟩)
      fun last _ _ _ h hb => ?_
    refine precedes_bind (precedes_rangeEnd h hb first) fun lo _ _ _ h hb => ?_
    refine precedes_bind (precedes_rangeEnd h hb last) fun hi _ _ _ h hb => ?_
    exact precedes_ite Iff.rfl (fun _ => precedes_refuse_bind _ _ _) (fun _ => precedes_pure h hb _)

theorem second?_bare_iff (h : Beside slack s s') (verbose : Bool) {c : Char} (hc : c ≠ ')') :
    second? verbose s'.rest = some c ↔ second? verbose (bare s s') = some c := by
  rcases h.extends_bare with hrest | hrest
  · rw [← hrest]
  · exact second?_iff hrest verbose hc

theorem precedes_classItem (h : Beside 1 s s') (hb : s'.rest.length ≤ bound + 1)
    (verbose : Bool) :
    Precedes 1 bound s s' (classItem verbose) (classItem verbose) := by
  by_cases hcut : s'.rest.head? = some '\\' ∧ CutBoundary verbose s'.rest
  · -- A boundary is no class, and no end of a range.
    obtain ⟨t', hpart⟩ := classPart_of_cut hcut.1 hcut.2
    intro a u' hu
    obtain ⟨first, t, hfirst, hu⟩ := run_bind_eq_ok.mp hu
    rw [hpart] at hfirst
    cases hfirst
    obtain ⟨_, v, -, hu⟩ := run_bind_eq_ok.mp hu
    obtain ⟨left, w, -, hu⟩ := run_bind_eq_ok.mp hu
    split_ifs at hu
    · cases hu
    · cases hu
    · obtain ⟨_, x, -, hu⟩ := run_bind_eq_ok.mp hu
      obtain ⟨atEnd, y, -, hu⟩ := run_bind_eq_ok.mp hu
      split_ifs at hu
      · cases hu
      · obtain ⟨last, z, -, hu⟩ := run_bind_eq_ok.mp hu
        cases hu
  · unfold classItem
    refine precedes_bind (precedes_classPart h hb verbose fun hhead hcut' => hcut ⟨hhead, hcut'⟩)
      fun first _ _ _ h hb => ?_
    refine precedes_bind (precedes_skipGap h hb verbose) fun _ t t' _ h hb => ?_
    apply precedes_rest_bind
    by_cases hnil : bare t t' = []
    · rw [hnil]
      have hclose : t'.rest = [')'] ∨ t'.rest = [] := by
        rcases h.extends_bare with hrest | hrest
        · exact Or.inr (hrest.trans hnil)
        · exact Extends.nil_iff.mp (hnil ▸ hrest)
      rcases hclose with hrest | hrest
      · rw [hrest]
        intro a u' hu
        rw [if_neg (by simp), if_pos (Or.inl (by decide))] at hu
        exact precedes_of_lost (precedes_partClass (Beside.lost_of_paren 0 hrest) hb first) a u' hu
      · rw [hrest]
        exact precedes_refuse _ _
    have hnil' : t'.rest ≠ [] := by
      intro h'
      rcases h.extends_bare with hrest | hrest
      · exact hnil (hrest.symm.trans h')
      · exact hrest.ne_nil hnil h'
    refine precedes_ite (by simp [hnil, hnil']) (fun _ => precedes_refuse _ _) (fun _ => ?_)
    have hsecond : ∀ c, c ≠ ')' →
        (second? verbose t'.rest = some c ↔ second? verbose (bare t t') = some c) :=
      fun c => second?_bare_iff h verbose
    refine precedes_ite (or_congr (not_congr (h.head?_iff (by decide)))
      (or_congr (hsecond _ (by decide)) (hsecond _ (by decide))))
      (fun _ => precedes_partClass h hb first) (fun _ => ?_)
    refine precedes_bind (precedes_skipWithGap h (Nat.le_succ_of_le hb) verbose)
      fun _ _ _ _ h hb => ?_
    refine precedes_atEnd_bind h (fun _ => precedes_refuse_bind _ _ _) (fun _ => ?_)
      (fun hrest => ?_)
    · exact precedes_rangeFrom h (Nat.le_succ_of_le hb) verbose first
    · exact precedes_of_lost (precedes_rangeFrom (Beside.lost_of_paren 0 hrest)
        (Nat.le_succ_of_le hb) verbose first)

theorem precedes_skipInClass (h : Beside 1 s s') (hb : s'.rest.length ≤ bound + 1)
    (verbose : Bool) : Precedes 1 bound s s' (skipInClass verbose) (skipInClass verbose) := by
  unfold skipInClass
  refine precedes_bind (precedes_skipWithGap h hb verbose) fun _ _ _ _ h hb => ?_
  refine precedes_atEnd_bind h (fun _ => precedes_refuse _ _) (fun _ => ?_) (fun hrest => ?_)
  · exact precedes_pure h hb ()
  · exact precedes_of_lost (precedes_pure (Beside.lost_of_paren 0 hrest) hb ())

theorem precedes_leadingHyphens (h : Beside 1 s s') (verbose : Bool) {fuel fuel' : Nat}
    (hfuel : ∀ v ∈ s, v.rest.length ≤ fuel) (hfuel' : s'.rest.length ≤ fuel') :
    Precedes 1 s'.rest.length s s' (leadingHyphens verbose fuel)
      (leadingHyphens verbose fuel') := by
  refine precedes_of_enough_fuel (leadingHyphens verbose) rfl (fun _ => rfl) ?_ ?_ h hfuel hfuel'
  · rintro _ _ (rfl | rfl) <;> rfl
  · intro fuel fuel' c s s' h ih
    have hrest : s'.rest.length ≤ s'.rest.length - 1 + 1 := by omega
    have hskip := precedes_skipInClass h hrest verbose
    split
    · refine precedes_bind hskip fun _ _ _ _ h hb => ?_
      refine precedes_bind (ih _ _ h hb) fun _ _ _ _ h hb' => ?_
      exact precedes_pure h (by omega) _
    · exact precedes_pure h (Nat.le_refl _) []

theorem precedes_frontItems (h : Beside 1 s s') (hb : s'.rest.length ≤ bound)
    (verbose negated : Bool) :
    Precedes 1 bound s s' (frontItems verbose negated) (frontItems verbose negated) := by
  unfold frontItems
  apply precedes_rest_bind
  refine precedes_bind (precedes_leadingHyphens h verbose Beside.length_le_bare_of_mem
    (Nat.le_refl _)) fun hyphens _ _ _ h hb' => ?_
  refine precedes_peek_bind h (fun o _ => ?_) (fun _ => ?_)
  · refine precedes_ite Iff.rfl (fun _ => ?_) (fun _ => precedes_pure h (by omega) _)
    have hb'' := Nat.le_succ_of_le (Nat.le_trans hb' hb)
    refine precedes_bind (precedes_skipInClass h hb'' verbose) fun _ _ _ _ h hb => ?_
    exact precedes_pure h hb _
  · simpa using precedes_pure h (by omega) (negated, hyphens)

theorem precedes_classFront (h : Beside 1 s s') (hb : s'.rest.length ≤ bound + 1)
    (verbose : Bool) : Precedes 1 bound s s' (classFront verbose) (classFront verbose) := by
  unfold classFront
  refine precedes_bind (precedes_skipInClass h hb verbose) fun _ _ _ _ h hb => ?_
  refine precedes_peek_bind h (fun o _ => ?_) (fun _ => precedes_frontItems h hb verbose false)
  refine precedes_ite Iff.rfl (fun _ => ?_) (fun _ => precedes_frontItems h hb verbose _)
  refine precedes_bind (precedes_skipInClass h (Nat.le_succ_of_le hb) verbose)
    fun _ _ _ _ h hb => ?_
  exact precedes_frontItems h hb verbose _

/-! ### Classes -/

theorem length_of_splitAtFirst {separator cs before after : List Char}
    (h : splitAtFirst separator cs = some (before, after)) : after.length ≤ cs.length := by
  induction cs generalizing before after with
  | nil => cases h
  | cons c cs ih =>
      rw [splitAtFirst] at h
      split at h
      · cases h
        simp
      · obtain ⟨⟨_, _⟩, hsplit, heq⟩ := Option.map_eq_some_iff.mp h
        cases heq
        exact Nat.le_succ_of_le (ih hsplit)

/-- A named class takes at least its brackets. -/
theorem length_of_namedClass? {cs : List Char} {p : ClassExpr × List Char}
    (h : namedClass? cs = some p) : p.2.length + 1 ≤ cs.length := by
  unfold namedClass? at h
  split at h
  · rename_i inner
    dsimp only at h
    split at h
    · rename_i name after hsplit
      obtain ⟨c, -, rfl⟩ := Option.map_eq_some_iff.mp h
      have hlen := length_of_splitAtFirst hsplit
      have htail : (if inner.head? = some '^' then inner.tail else inner).length
          ≤ inner.length := by
        split_ifs
        · simp
        · exact Nat.le_refl _
      simp only [List.length_cons] at hlen ⊢
      omega
    · cases h
  · cases h

/-- What is read of a class where it has the given text left. -/
def classStep (verbose : Bool) (fuel : Nat) (o : OpenClass) (left : List Char) : Read ClassExpr :=
  match left with
  | [] => refuse .classUnclosed
  | ']' :: after => do
    goOn after
    return o.toExpr
  | '[' :: _ =>
    match namedClass? left with
    | some (c, after) => do
      goOn after
      classRest verbose fuel (o.push c)
    | none => do
      let (negated, items) ← classFront verbose
      let inner ← classRest verbose fuel { items := items.reverse }
      classRest verbose fuel (o.push (.bracketed negated inner))
  | _ =>
    match classOp? left with
    | some operation => do
      goOn (left.drop 2)
      classRest verbose fuel { before := some (o.toExpr, operation) }
    | none => do classRest verbose fuel (o.push (← classItem verbose))

theorem classRest_succ (verbose : Bool) (fuel : Nat) (o : OpenClass) :
    classRest verbose (fuel + 1) o
      = (skipGap verbose >>= fun _ => rest >>= classStep verbose fuel o) :=
  rfl

theorem classStep_of_ne {c : Char} (hclose : c ≠ ']') (hopen : c ≠ '[') (verbose : Bool)
    (fuel : Nat) (o : OpenClass) (cs : List Char) :
    classStep verbose fuel o (c :: cs) = (match classOp? (c :: cs) with
      | some operation =>
        goOn (cs.drop 1) >>= fun _ =>
          classRest verbose fuel { before := some (o.toExpr, operation) }
      | none => classItem verbose >>= fun e => classRest verbose fuel (o.push e)) := by
  unfold classStep
  split
  · simp_all
  · simp_all
  · simp_all
  · rfl

/-- One character at the end of the pattern may close the class, or it is lost. -/
theorem precedes_classStep_of_lost (h : Beside 1 none s') (hb : s'.rest.length ≤ bound)
    (verbose : Bool) {fuel : Nat} (o : OpenClass)
    (ih : ∀ (t' : Source) (o : OpenClass), Beside 1 none t' → t'.rest.length ≤ bound →
      Precedes 0 bound none t' (classRest verbose fuel o) (classRest verbose fuel o))
    (m : Read ClassExpr) : Precedes 0 bound none s' m (classStep verbose fuel o s'.rest) := by
  have hlen : s'.rest.length ≤ 1 := h
  cases hrest : s'.rest with
  | nil => exact precedes_refuse _ _
  | cons c cs =>
      obtain rfl : cs = [] := by
        rw [hrest] at hlen
        simpa using hlen
      by_cases hclose : c = ']'
      · subst hclose
        have hgoOn : Precedes 0 bound none s' (goOn []) (goOn []) :=
          precedes_goOn h (Nat.zero_le _) (Or.inr (Nat.zero_le _))
        exact precedes_bind_of_lost hgoOn fun _ _ h hb => precedes_pure h hb _
      by_cases hopen : c = '['
      · subst hopen
        refine precedes_bind_of_lost (precedes_classFront h (Nat.le_succ_of_le hb) verbose)
          fun p _ h hb => ?_
        refine precedes_bind_of_lost (ih _ _ h hb) fun inner _ h hb => ?_
        exact ih _ _ (h.weaken (Nat.zero_le 1)) hb
      · have hop : classOp? [c] = none := by
          unfold classOp?
          split <;> simp_all
        rw [classStep_of_ne hclose hopen, hop]
        refine precedes_bind_of_lost (precedes_classItem h (Nat.le_succ_of_le hb) verbose)
          fun e _ h hb => ?_
        exact ih _ _ h hb

/-- With more than the parenthesis left, a step of a class is the same without it. -/
theorem precedes_classStep {c : Char} {cs : List Char} {names : List (List Char)}
    (hb : cs.length + 1 ≤ bound) (verbose : Bool) {fuel fuel' : Nat} (o : OpenClass)
    (ih : ∀ (t : Option Source) (t' : Source) (o : OpenClass), Beside 1 t t' →
      t'.rest.length ≤ bound →
      Precedes 0 bound t t' (classRest verbose fuel o) (classRest verbose fuel' o)) :
    Precedes 0 bound (some ⟨c :: cs, names⟩) ⟨c :: (cs ++ [')']), names⟩
      (classStep verbose fuel o (c :: cs)) (classStep verbose fuel' o (c :: (cs ++ [')']))) := by
  have h : Beside 1 (some ⟨c :: cs, names⟩) ⟨c :: (cs ++ [')']), names⟩ := ⟨rfl, rfl⟩
  have hlen : (c :: (cs ++ [')'])).length ≤ bound + 1 := by simpa using hb
  have hgoOn : ∀ (slack : Nat) (after : List Char), after.length ≤ cs.length →
      Precedes slack bound (some ⟨c :: cs, names⟩) ⟨c :: (cs ++ [')']), names⟩
        (goOn after) (goOn (after ++ [')'])) := by
    intro slack after hafter
    refine precedes_goOn h ?_ (Or.inl ⟨_, rfl, rfl⟩)
    rw [List.length_append]
    exact Nat.le_trans (Nat.succ_le_succ hafter) hb
  by_cases hclose : c = ']'
  · subst hclose
    exact precedes_bind (hgoOn 0 cs (Nat.le_refl _)) fun _ _ _ _ h hb => precedes_pure h hb _
  by_cases hopen : c = '['
  · subst hopen
    have hnamed := namedClass?_append ('[' :: cs)
    rw [List.cons_append] at hnamed
    simp only [classStep, hnamed]
    cases hclass : namedClass? ('[' :: cs) with
    | some p =>
        have hafter := Nat.le_of_succ_le_succ (length_of_namedClass? hclass)
        exact precedes_bind (hgoOn 1 p.2 hafter) fun _ _ _ _ h hb => ih _ _ _ h hb
    | none =>
        refine precedes_bind (precedes_classFront h hlen verbose) fun p _ _ _ h hb => ?_
        refine precedes_bind (ih _ _ _ h hb) fun _ _ _ _ h hb => ?_
        exact ih _ _ _ (h.weaken (Nat.zero_le 1)) hb
  · rw [classStep_of_ne hclose hopen, classStep_of_ne hclose hopen, classOp?_append]
    cases hop : classOp? (c :: cs) with
    | some operation =>
        have hdrop : (cs ++ [')']).drop 1 = cs.drop 1 ++ [')'] := by
          cases cs with
          | nil => simp [classOp?] at hop
          | cons d cs => rfl
        rw [hdrop]
        exact precedes_bind (hgoOn 1 _ (by simp)) fun _ _ _ _ h hb => ih _ _ _ h hb
    | none =>
        exact precedes_bind (precedes_classItem h hlen verbose) fun _ _ _ _ h hb => ih _ _ _ h hb

theorem precedes_classRest (h : Beside 1 s s') (hb : s'.rest.length ≤ bound) (verbose : Bool)
    {fuel fuel' : Nat} (hfuel : ∀ v ∈ s, v.rest.length + 1 ≤ fuel) (o : OpenClass) :
    Precedes 0 bound s s' (classRest verbose fuel o) (classRest verbose fuel' o) := by
  induction fuel' generalizing s s' fuel o bound with
  | zero => exact precedes_refuse _ _
  | succ fuel' ih =>
      refine precedes_of_fuel (classRest verbose · o) hfuel fun f hlen => ?_
      obtain ⟨f, rfl⟩ := Nat.exists_eq_add_one.mpr (Nat.zero_lt_of_lt hlen)
      have hbare := h.length_le_bare
      rw [classRest_succ, classRest_succ]
      refine precedes_bind (precedes_skipGap h (Nat.le_refl _) verbose) fun _ t t' _ h hb' => ?_
      apply precedes_rest_bind
      have hlost : Beside 1 none t' →
          Precedes 0 bound t t' (classStep verbose f o (bare t t'))
            (classStep verbose fuel' o t'.rest) := by
        intro h
        refine precedes_of_lost (precedes_classStep_of_lost h (by omega) verbose o ?_
          (refuse .classUnclosed))
        intro u' o h hb
        exact ih h hb (fuel_of_lost fuel') o
      cases t with
      | none => exact hlost h
      | some v =>
          obtain ⟨left, names⟩ := v
          obtain ⟨left', names'⟩ := t'
          obtain ⟨hnames, hleft⟩ := h
          obtain rfl : names' = names := hnames
          obtain rfl : left' = left ++ [')'] := hleft
          cases left with
          | nil => exact hlost (Beside.lost_of_paren 0 rfl)
          | cons c cs =>
              have hcs : cs.length + 1 ≤ s'.rest.length - 1 := by
                have hcons : (c :: (cs ++ [')'])).length ≤ s'.rest.length := hb'
                simp only [List.length_cons, List.length_append] at hcons
                omega
              exact precedes_mono (by omega) (precedes_classStep hcs verbose o
                fun t t' o h hb => ih h hb (h.succ_length_le_of_mem (by omega)) o)

theorem precedes_bracketedClass (h : Beside 0 s s') (hb : s'.rest.length ≤ bound + 1)
    (verbose : Bool) :
    Precedes 0 bound s s' (bracketedClass verbose) (bracketedClass verbose) := by
  unfold bracketedClass
  refine precedes_bind (precedes_classFront (h.weaken (Nat.zero_le 1)) hb verbose)
    fun p _ _ _ h hb => ?_
  apply precedes_rest_bind
  refine precedes_bind (precedes_classRest h hb verbose Beside.succ_length_le_bare_of_mem _)
    fun _ _ _ _ h hb => ?_
  exact precedes_pure h hb _

/-! ### Repetitions -/

theorem precedes_reluctance (h : Beside slack s s') (hb : s'.rest.length ≤ bound) :
    Precedes slack bound s s' reluctance reluctance := by
  refine precedes_bind (precedes_skipIf h hb (by decide)) fun _ _ _ _ h hb => ?_
  exact precedes_pure h hb ()

theorem precedes_sign (h : Beside slack s s') (hb : s'.rest.length ≤ bound + 1)
    (range : Nat × Option Nat) :
    Precedes slack bound s s' (do repetitionSign; return range)
      (do repetitionSign; return range) := by
  have hsign : Precedes slack bound s s' repetitionSign repetitionSign :=
    precedes_bind (precedes_skip h hb) fun _ _ _ _ h hb => precedes_reluctance h hb
  exact precedes_bind hsign fun _ _ _ _ h hb => precedes_pure h hb range

theorem precedes_settled (h : Beside slack s s') (hb : s'.rest.length ≤ bound)
    (x : Except PatternError Nat) : Precedes slack bound s s' (settled x) (settled x) := by
  cases x with
  | ok n => exact precedes_pure h hb n
  | error e => exact precedes_refuse e _

/-- What is read of the upper bound once the lower one and a comma are read. -/
def boundsAfterComma (verbose : Bool) (low : Except PatternError Nat) :
    Option Char → Read (Nat × Option Nat)
  | none => refuse .countUnclosed
  | some '\x7d' => do return (← settled low, none)
  | some _ => do
    let low ← settled low
    let high ← settled (← decimal verbose)
    return (low, some high)

/-- What is read of the bounds once there is anything of them. -/
def boundsFrom (verbose : Bool) : Read (Nat × Option Nat) := do
  let low ← decimal verbose
  match ← peek? with
  | none => refuse .countUnclosed
  | some ',' => do
    skipWithGap verbose
    boundsAfterComma verbose low (← peek?)
  | some _ => do
    let n ← settled low
    return (n, some n)

theorem bounds_eq (verbose : Bool) : bounds verbose = (do
    skipWithGap verbose
    if ← atEnd then refuse .countUnclosed
    boundsFrom verbose) :=
  rfl

theorem precedes_boundsAfterComma (h : Beside 1 s s') (hb : s'.rest.length ≤ bound)
    (verbose : Bool) (low : Except PatternError Nat) (o : Option Char) :
    Precedes 1 bound s s' (boundsAfterComma verbose low o) (boundsAfterComma verbose low o) := by
  unfold boundsAfterComma
  split
  · exact precedes_refuse _ _
  · refine precedes_bind (precedes_settled h hb low) fun _ _ _ _ h hb => ?_
    exact precedes_pure h hb _
  · refine precedes_bind (precedes_settled h hb low) fun _ _ _ _ h hb => ?_
    refine precedes_bind (precedes_decimal h hb verbose) fun high _ _ _ h hb => ?_
    refine precedes_bind (precedes_settled h hb high) fun _ _ _ _ h hb => ?_
    exact precedes_pure h hb _

theorem precedes_boundsFrom (h : Beside 1 s s') (hb : s'.rest.length ≤ bound) (verbose : Bool) :
    Precedes 1 bound s s' (boundsFrom verbose) (boundsFrom verbose) := by
  unfold boundsFrom
  refine precedes_bind (precedes_decimal h hb verbose) fun low _ _ _ h hb => ?_
  refine precedes_peek_bind h (fun o _ => ?_) (fun hrest => ?_)
  · split
    · exact precedes_refuse _ _
    · refine precedes_bind (precedes_skipWithGap h (Nat.le_succ_of_le hb) verbose)
        fun _ _ _ _ h hb => ?_
      refine precedes_peek_bind h (fun o _ => precedes_boundsAfterComma h hb verbose low o)
        (fun hrest => ?_)
      exact precedes_of_lost
        (precedes_boundsAfterComma (Beside.lost_of_paren 0 hrest) hb verbose low (some ')'))
    · refine precedes_bind (precedes_settled h hb low) fun _ _ _ _ h hb => ?_
      exact precedes_pure h hb _
  · -- The bound ends at the parenthesis, and what closes it does not follow.
    have hsettled := precedes_settled (Beside.lost_of_paren 0 hrest) hb low
    exact precedes_bind_of_lost hsettled fun _ _ h hb => precedes_pure h hb _

theorem precedes_bounds (h : Beside 1 s s') (hb : s'.rest.length ≤ bound + 1) (verbose : Bool) :
    Precedes 1 bound s s' (bounds verbose) (bounds verbose) := by
  rw [bounds_eq]
  refine precedes_bind (precedes_skipWithGap h hb verbose) fun _ _ _ _ h hb => ?_
  refine precedes_atEnd_bind h (fun _ => precedes_refuse_bind _ _ _) (fun _ => ?_) (fun hrest => ?_)
  · exact precedes_boundsFrom h hb verbose
  · exact precedes_of_lost (precedes_boundsFrom (Beside.lost_of_paren 0 hrest) hb verbose)

theorem precedes_count (h : Beside 0 s s') (hb : s'.rest.length ≤ bound + 1) (verbose : Bool) :
    Precedes 0 bound s s' (count verbose) (count verbose) := by
  unfold count
  refine precedes_bind (precedes_bounds (h.weaken (Nat.zero_le 1)) hb verbose)
    fun p _ _ _ h hb => ?_
  refine precedes_peek_bind h (fun o _ => ?_) (fun _ => precedes_refuse_bind _ _ _)
  refine precedes_ite Iff.rfl (fun _ => precedes_refuse_bind _ _ _) (fun _ => ?_)
  refine precedes_bind (precedes_skipWithGap_slack h (Nat.le_succ_of_le hb) verbose)
    fun _ _ _ _ h hb => ?_
  refine precedes_bind (precedes_reluctance h hb) fun _ _ _ _ h hb => ?_
  dsimp only
  split
  · exact precedes_refuse_bind _ _ _
  · exact precedes_pure h hb _

/-- A brace with nothing but the parenthesis after it is no repetition. -/
theorem count_of_gapped_paren {verbose : Bool} {inner : List Char}
    (hgap : gapped verbose inner = [')']) (names : List (List Char)) :
    count verbose ⟨'\x7b' :: inner, names⟩ = .error .countEmpty := by
  have hskip : skipWithGap verbose ⟨'\x7b' :: inner, names⟩ = .ok ((), ⟨[')'], names⟩) := by
    rw [← hgap]
    cases verbose <;> rfl
  have hbounds : boundsFrom verbose ⟨[')'], names⟩ = .error .countEmpty := by
    cases verbose <;> rfl
  have hcount : count verbose ⟨'\x7b' :: inner, names⟩ = (bounds verbose >>= fun p => do
      if (← peek?) ≠ some '\x7d' then refuse .countUnclosed
      skipWithGap verbose
      reluctance
      if p.2.any (· < p.1) then refuse .countInvalid
      return p : Read _) ⟨'\x7b' :: inner, names⟩ := rfl
  have hread : bounds verbose ⟨'\x7b' :: inner, names⟩ = .error .countEmpty := by
    rw [bounds_eq, run_bind_of_ok hskip]
    exact hbounds
  rw [hcount]
  show (bounds verbose ⟨'\x7b' :: inner, names⟩ >>= _) = _
  rw [hread]
  rfl

/-! ### Groups -/

/-- The parenthesis may end the flags, and then nothing is left. -/
theorem precedes_flagsFrom (h : Beside 0 s s') (hb : s'.rest.length ≤ bound + 1)
    {fuel fuel' : Nat} (hfuel : ∀ v ∈ s, v.rest.length + 1 ≤ fuel) (o : OpenFlags) :
    Precedes 0 bound s s' (flagsFrom fuel o) (flagsFrom fuel' o) := by
  induction fuel' generalizing s s' fuel o bound with
  | zero => exact precedes_refuse _ _
  | succ fuel' ih =>
      refine precedes_of_fuel (flagsFrom · o) hfuel fun f hlen => ?_
      obtain ⟨f, rfl⟩ := Nat.exists_eq_add_one.mpr (Nat.zero_lt_of_lt hlen)
      have hbare := h.length_le_bare
      unfold flagsFrom
      refine precedes_peek_bind h (fun o' _ => ?_) (fun hrest => ?_)
      · cases o' with
        | none => exact precedes_refuse _ _
        | some c =>
            dsimp only
            split
            · split
              · exact precedes_refuse_bind _ _ _
              · refine precedes_bind (precedes_skip h hb) fun _ _ _ _ h hb => ?_
                exact precedes_pure h hb _
            · refine precedes_bind (precedes_lift h (Nat.le_refl _) _) fun o _ left' _ h hb' => ?_
              have hleft : left'.rest.length ≤ s'.rest.length - 1 + 1 := by omega
              refine precedes_bind (precedes_skip h hleft)
                fun _ _ _ _ h hb => ?_
              exact ih h (by omega) (h.succ_length_le_of_mem (by omega)) o
      · dsimp only
        rw [if_pos (Or.inr rfl)]
        split
        · exact precedes_refuse_bind _ _ _
        · have hskip := precedes_skip_slack (Beside.lost_of_paren 0 hrest) hb
          exact precedes_bind_of_lost hskip fun _ _ h hb => precedes_pure h hb _

theorem precedes_nameChars (h : Beside 0 s s') (hb : s'.rest.length ≤ bound)
    {fuel fuel' : Nat} (hfuel : ∀ v ∈ s, v.rest.length + 1 ≤ fuel) (first : Bool) :
    Precedes 0 bound s s' (nameChars fuel first) (nameChars fuel' first) := by
  induction fuel' generalizing s s' fuel first with
  | zero => exact precedes_refuse _ _
  | succ fuel' ih =>
      refine precedes_of_fuel (nameChars · first) hfuel fun f hlen => ?_
      obtain ⟨f, rfl⟩ := Nat.exists_eq_add_one.mpr (Nat.zero_lt_of_lt hlen)
      have hbare := h.length_le_bare
      unfold nameChars
      refine precedes_peek_bind h (fun o _ => ?_) (fun hrest => ?_)
      · split
        · exact precedes_refuse _ _
        · exact precedes_pure h hb []
        · dsimp only
          split
          · exact precedes_refuse_bind _ _ _
          · have hrest : s'.rest.length ≤ s'.rest.length - 1 + 1 := by omega
            refine precedes_bind (precedes_skip h hrest) fun _ _ _ _ h hb => ?_
            have hfuel := h.succ_length_le_of_mem (show _ ≤ f by omega)
            refine precedes_bind (ih h (by omega) hfuel false) fun _ _ _ _ h hb => ?_
            exact precedes_pure h hb _
      · -- Whether or not the parenthesis may stand in a name, nothing comes after it.
        change Precedes 0 bound s s' (refuse .groupNameUnfinished) _
        split
        · exact precedes_refuse _ _
        · simp_all
        · dsimp only
          split
          · exact precedes_refuse_bind _ _ _
          · have hskip := precedes_skip_slack (Beside.lost_of_paren 0 hrest) (Nat.le_succ_of_le hb)
            refine precedes_bind_of_lost hskip fun _ _ h hb => ?_
            refine precedes_bind_of_lost (ih h hb (fuel_of_lost fuel') false) fun _ _ h hb => ?_
            exact precedes_pure h hb _

/-- The names met before are the same, unless the reading is lost. -/
theorem precedes_get_bind (h : Beside slack s s') {slack' : Nat} {k k' : Source → Read β}
    (hk : ∀ v, v.names = s'.names → Precedes slack' bound s s' (k v) (k' s')) :
    Precedes slack' bound s s' (get >>= k) (get >>= k') := by
  cases s with
  | none => exact precedes_of_lost (hk s' rfl)
  | some v =>
      intro b u' hu
      obtain ⟨hlen, u, hbeside, hread⟩ := hk v h.1.symm b u' hu
      refine ⟨hlen, u, hbeside, fun w hw => ?_⟩
      obtain ⟨x, hx, hkx⟩ := hread w hw
      cases hx
      exact ⟨v, rfl, hkx⟩

theorem precedes_addName (h : Beside slack s s') (hb : s'.rest.length ≤ bound)
    (name : List Char) :
    Precedes slack bound s s' (modify fun s => { s with names := name :: s.names })
      (modify fun s => { s with names := name :: s.names }) := by
  intro a t' ht
  cases ht
  refine ⟨hb, s.map fun v => { v with names := name :: v.names }, ?_, fun u hu => ?_⟩
  · cases s with
    | none => exact h
    | some v => exact ⟨congrArg (name :: ·) h.1, h.2⟩
  · obtain ⟨v, hv, rfl⟩ := Option.map_eq_some_iff.mp hu
    exact ⟨v, hv, rfl⟩

theorem precedes_groupName (h : Beside 0 s s') (hb : s'.rest.length ≤ bound) :
    Precedes 0 bound s s' groupName groupName := by
  unfold groupName
  apply precedes_rest_bind
  refine precedes_bind (precedes_nameChars h hb Beside.succ_length_le_bare_of_mem true)
    fun name _ _ _ h hb => ?_
  refine precedes_bind (precedes_skip h (Nat.le_succ_of_le hb)) fun _ _ _ _ h hb => ?_
  dsimp only
  split
  · exact precedes_refuse_bind _ _ _
  · refine precedes_get_bind h fun v hv => ?_
    refine precedes_ite (by rw [hv]) (fun _ => precedes_refuse_bind _ _ _) (fun _ => ?_)
    exact precedes_addName h hb name

/-- What is read of the flags at the front of a group, up to what ends them. -/
def flagsOfGroup : Read Opening := do
  let (o, ending) ← flagsFrom ((← rest).length + 1) {}
  if ending = ':' then return .group o.change
  else if o.change.isEmpty ∧ ¬ o.negated then refuse .repetitionMissing
  else return .change o.change

theorem precedes_flagsOfGroup (h : Beside 0 s s') (hb : s'.rest.length ≤ bound) :
    Precedes 0 bound s s' flagsOfGroup flagsOfGroup := by
  unfold flagsOfGroup
  apply precedes_rest_bind
  refine precedes_bind (precedes_flagsFrom h (Nat.le_succ_of_le hb)
    Beside.succ_length_le_bare_of_mem {}) fun p _ _ _ h hb => ?_
  dsimp only
  split_ifs
  · exact precedes_pure h hb _
  · exact precedes_refuse _ _
  · exact precedes_pure h hb _

theorem flagsOfGroup_of_paren (h : s'.rest = [')']) :
    flagsOfGroup s' = .error .repetitionMissing := by
  obtain ⟨left, names⟩ := s'
  obtain rfl : left = [')'] := h
  rfl

theorem precedes_opening (h : Beside 0 s s') (hb : s'.rest.length ≤ bound + 1) (verbose : Bool) :
    Precedes 0 bound s s' (opening verbose) (opening verbose) := by
  unfold opening
  refine precedes_bind (precedes_skipWithGap h hb verbose) fun _ _ _ _ h hb => ?_
  apply precedes_rest_bind
  refine precedes_ite ?_ (fun _ => precedes_refuse _ _) (fun _ => ?_)
  · simp only [List.any_cons, List.any_nil, h.isPrefixOf_eq (show ')' ∉ "?=".toList by decide),
      h.isPrefixOf_eq (show ')' ∉ "?!".toList by decide),
      h.isPrefixOf_eq (show ')' ∉ "?<=".toList by decide),
      h.isPrefixOf_eq (show ')' ∉ "?<!".toList by decide)]
  refine precedes_bind (precedes_skipIf h hb (by decide)) fun _ _ _ _ h hb => ?_
  split
  · refine precedes_bind (precedes_groupName h hb) fun _ _ _ _ h hb => ?_
    exact precedes_pure h hb _
  refine precedes_bind (precedes_skipIf h hb (by decide)) fun _ _ _ _ h hb => ?_
  split
  · refine precedes_bind (precedes_groupName h hb) fun _ _ _ _ h hb => ?_
    exact precedes_pure h hb _
  refine precedes_bind (precedes_skipIf h hb (by decide)) fun _ _ _ _ h hb => ?_
  split
  · refine precedes_atEnd_bind h (fun _ => precedes_refuse_bind _ _ _) (fun _ => ?_)
      (fun hrest => ?_)
    · exact precedes_flagsOfGroup h hb
    · intro a t' ht
      exact absurd ((flagsOfGroup_of_paren hrest).symm.trans ht) (by simp)
  · exact precedes_pure h hb _

/-! ### Bodies -/

theorem precedes_popRepeatable (h : Beside slack s s') (hb : s'.rest.length ≤ bound)
    (o : OpenGroup) : Precedes slack bound s s' o.popRepeatable o.popRepeatable := by
  unfold OpenGroup.popRepeatable
  split
  · split
    · exact precedes_pure h hb _
    · exact precedes_refuse _ _
  · exact precedes_refuse _ _

theorem precedes_repeated (h : Beside slack s s') (hb : s'.rest.length ≤ bound + 1) (o : OpenGroup)
    {m : Read (Nat × Option Nat)}
    (hm : ∀ (t : Option Source) (t' : Source), Beside slack t t' → t'.rest.length ≤ bound + 1 →
      Precedes slack bound t t' m m) :
    Precedes slack bound s s' (o.repeated m) (o.repeated m) := by
  refine precedes_bind (precedes_popRepeatable h hb o) fun p _ _ _ h hb => ?_
  refine precedes_bind (hm _ _ h hb) fun q _ _ _ h hb => ?_
  exact precedes_pure h hb _

theorem repeated_of_error {o : OpenGroup} {e : Expr} (he : e.isRepeatable = true)
    {m : Read (Nat × Option Nat)} {fault : PatternError} (hm : m s' = .error fault) :
    (o.push e).repeated m s' = .error fault := by
  have hpop : (o.push e).popRepeatable s' = .ok ((e, o), s') := by
    show (if e.isRepeatable = true then pure (e, o) else refuse .repetitionMissing : Read _) s' = _
    rw [if_pos he]
    rfl
  unfold OpenGroup.repeated
  rw [run_bind_of_ok hpop]
  show (m s' >>= _) = _
  rw [hm]
  rfl

/-- A cut boundary leaves a brace that nothing can be made of. -/
theorem body_of_cut {o : OpenGroup} (hhead : s'.rest.head? = some '\\')
    (hcut : CutBoundary o.verbose s'.rest) (fuel : Nat) :
    ∃ e, (primitive o.verbose >>= fun e => body fuel (o.push e)) s' = .error e := by
  obtain ⟨inner, hgap, hescape⟩ := escape_of_cut hhead hcut
  obtain ⟨left, names⟩ := s'
  obtain ⟨cs, rfl⟩ := List.head?_eq_some_iff.mp hhead
  have hprimitive : primitive o.verbose ⟨'\\' :: cs, names⟩
      = .ok (.assertion .boundary, ⟨'\x7b' :: inner, names⟩) := hescape
  rw [run_bind_of_ok hprimitive]
  cases fuel with
  | zero => exact ⟨_, rfl⟩
  | succ fuel =>
      have hgapped : skipGap o.verbose ⟨'\x7b' :: inner, names⟩
          = .ok ((), ⟨'\x7b' :: inner, names⟩) := by
        cases o.verbose <;> rfl
      refine ⟨.countEmpty, ?_⟩
      unfold body
      have hverbose : (o.push (.assertion .boundary)).verbose = o.verbose := rfl
      rw [hverbose, run_bind_of_ok hgapped]
      have hrepeated := repeated_of_error (o := o) (e := .assertion .boundary) rfl
        (count_of_gapped_paren hgap names)
      show ((o.push (.assertion .boundary)).repeated (count o.verbose) ⟨'\x7b' :: inner, names⟩
        >>= fun p => body fuel p.1 p.2) = _
      rw [hrepeated]
      rfl

/-- The inside of a group reads the same without the parenthesis after it. -/
theorem precedes_body (h : Beside 0 s s') (hb : s'.rest.length ≤ bound) {fuel fuel' : Nat}
    (hfuel : ∀ v ∈ s, v.rest.length + 1 ≤ fuel) (o : OpenGroup) :
    Precedes 0 bound s s' (body fuel o) (body fuel' o) := by
  induction fuel' generalizing s s' fuel o bound with
  | zero => exact precedes_refuse _ _
  | succ fuel' ih =>
      refine precedes_of_fuel (body · o) hfuel fun f hlen => ?_
      obtain ⟨f, rfl⟩ := Nat.exists_eq_add_one.mpr (Nat.zero_lt_of_lt hlen)
      have hbare := h.length_le_bare
      unfold body
      refine precedes_bind (precedes_skipGap h (Nat.le_refl _) o.verbose) fun _ t t' _ h hb' => ?_
      -- Each part takes a character, so what is left can be read with the fuel that is left.
      have hinner : ∀ (o : OpenGroup) (u : Option Source) (u' : Source), Beside 0 u u' →
          u'.rest.length ≤ s'.rest.length - 1 →
          Precedes 0 (s'.rest.length - 1) u u' (body f o) (body fuel' o) := by
        intro o u u' h hb
        exact ih h hb (h.succ_length_le_of_mem (by omega)) o
      have hgo : ∀ (o : OpenGroup) (u : Option Source) (u' : Source), Beside 0 u u' →
          u'.rest.length ≤ s'.rest.length - 1 →
          Precedes 0 bound u u' (body f o) (body fuel' o) :=
        fun o u u' h hb => precedes_mono (by omega) (hinner o u u' h hb)
      have hstep : t'.rest.length ≤ s'.rest.length - 1 + 1 := by omega
      refine precedes_peek_bind h (fun c hc => ?_) (fun hrest => ?_)
      · split
        · exact precedes_pure h (by omega) _
        · exact precedes_pure h (by omega) _
        · refine precedes_bind (precedes_opening h hstep o.verbose) fun begun _ _ _ h hb => ?_
          cases begun with
          | change change => exact hgo _ _ _ h hb
          | group change =>
              refine precedes_bind (hinner _ _ _ h hb) fun inner _ _ _ h hb => ?_
              refine precedes_atEnd_bind h (fun _ => precedes_refuse_bind _ _ _) (fun _ => ?_)
                (fun hrest => ?_)
              · refine precedes_bind (precedes_skip h (Nat.le_succ_of_le hb)) fun _ _ _ _ h hb => ?_
                exact hgo _ _ _ h hb
              · -- The parenthesis closes this group, and then nothing is left.
                have hskip := precedes_skip_slack (Beside.lost_of_paren 0 hrest)
                  (Nat.le_succ_of_le hb)
                refine precedes_bind_of_lost hskip fun _ u' h hb => ?_
                exact ih h (by omega) (fuel_of_lost fuel') _
        · refine precedes_bind (precedes_skip h hstep) fun _ _ _ _ h hb => ?_
          exact hgo _ _ _ h hb
        · refine precedes_bind (precedes_bracketedClass h hstep o.verbose) fun _ _ _ _ h hb => ?_
          exact hgo _ _ _ h hb
        · refine precedes_bind (precedes_repeated h hstep o fun _ _ h hb => precedes_sign h hb _)
            fun _ _ _ _ h hb => ?_
          exact hgo _ _ _ h hb
        · refine precedes_bind (precedes_repeated h hstep o fun _ _ h hb => precedes_sign h hb _)
            fun _ _ _ _ h hb => ?_
          exact hgo _ _ _ h hb
        · refine precedes_bind (precedes_repeated h hstep o fun _ _ h hb => precedes_sign h hb _)
            fun _ _ _ _ h hb => ?_
          exact hgo _ _ _ h hb
        · refine precedes_bind (precedes_repeated h hstep o fun _ _ h hb =>
            precedes_count h hb o.verbose) fun _ _ _ _ h hb => ?_
          exact hgo _ _ _ h hb
        · by_cases hcut : t'.rest.head? = some '\\' ∧ CutBoundary o.verbose t'.rest
          · obtain ⟨e, he⟩ := body_of_cut hcut.1 hcut.2 fuel'
            intro a u' hu
            exact absurd (he.symm.trans hu) (by simp)
          · have hparen : t'.rest.head? ≠ some ')' := by
              rw [hc]
              simp_all
            refine precedes_bind (precedes_primitive h hstep o.verbose hparen
              fun hhead hcut' => hcut ⟨hhead, hcut'⟩) fun _ _ _ _ h hb => ?_
            exact hgo _ _ _ h hb
      · exact precedes_pure h (by omega) _

/-! ### Whole patterns -/

theorem read_bind_mono {m : Read α} {k k' : α → Read β} {s : Source} {r : β × Source}
    (hk : ∀ a v, k a v = .ok r → k' a v = .ok r)
    (h : (m >>= k) s = .ok r) : (m >>= k') s = .ok r := by
  obtain ⟨b, u⟩ := r
  obtain ⟨a, v, hm, hu⟩ := run_bind_eq_ok.mp h
  exact run_bind_eq_ok.mpr ⟨a, v, hm, hk a v hu⟩

/-- What is read with some fuel is read with more. -/
theorem body_more_fuel {fuel fuel' : Nat} (hle : fuel ≤ fuel') {o : OpenGroup} {s : Source}
    {r : Expr × Source} (h : body fuel o s = .ok r) : body fuel' o s = .ok r := by
  induction fuel generalizing fuel' o s r with
  | zero => cases h
  | succ fuel ih =>
      obtain ⟨fuel', rfl⟩ := Nat.exists_eq_add_one.mpr (Nat.zero_lt_of_lt hle)
      have hgo : ∀ {o : OpenGroup} {v : Source} {r : Expr × Source},
          body fuel o v = .ok r → body fuel' o v = .ok r := ih (Nat.le_of_succ_le_succ hle)
      unfold body at h ⊢
      refine read_bind_mono (fun _ _ h => ?_) h
      refine read_bind_mono (fun c _ h => ?_) h
      split at h
      · exact h
      · exact h
      · refine read_bind_mono (fun begun _ h => ?_) h
        cases begun with
        | change change => exact hgo h
        | group change =>
            obtain ⟨b, u⟩ := r
            obtain ⟨inner, v, hinner, h⟩ := run_bind_eq_ok.mp h
            refine run_bind_eq_ok.mpr ⟨inner, v, hgo hinner, ?_⟩
            refine read_bind_mono (fun ended _ h => ?_) h
            cases ended with
            | true => cases h
            | false => exact read_bind_mono (fun _ _ h => hgo h) h
      all_goals exact read_bind_mono (fun _ _ h => hgo h) h

theorem depth_of_parse {text : List Char} {e : Expr} (h : Expr.parse text = .ok e) :
    e.depth ≤ nestLimit := by
  obtain ⟨e', -, hdepth⟩ := bind_eq_ok.mp h
  split at hdepth
  · rename_i hle
    cases hdepth
    exact hle
  · cases hdepth

/-- A pattern is what its body is, if the body takes all of it. -/
theorem parse_of_body {text : List Char} {e : Expr} {t : Source}
    (h : body (text.length + 1) { verbose := false } ⟨text, []⟩ = .ok (e, t)) :
    Expr.parse text =
      if t.rest = [] then if e.depth ≤ nestLimit then .ok e else .error .nestedTooDeep
      else .error .groupUnopened := by
  have hpattern : pattern (text.length + 1) ⟨text, []⟩
      = (do if ← atEnd then return e else refuse .groupUnopened : Read Expr) t :=
    run_bind_of_ok h _
  obtain ⟨left, names⟩ := t
  have hparse : Expr.parse text = ((pattern (text.length + 1) ⟨text, []⟩).map Prod.fst >>= fun e =>
      if e.depth ≤ nestLimit then .ok e else .error .nestedTooDeep) := by
    show ((pattern (text.length + 1) ⟨text, []⟩ >>= fun p => pure p.1) >>= _) = _
    cases pattern (text.length + 1) ⟨text, []⟩ <;> rfl
  rw [hparse, hpattern]
  cases left with
  | nil => rfl
  | cons c cs => rfl

end NameLint.Regex

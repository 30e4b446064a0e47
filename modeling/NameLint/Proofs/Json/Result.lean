/-
What readers can give.

`Ensures` says that whatever a reader gives has a property.  It carries over from the
parts of a reader to the whole, and from the fields of a record to the record, whichever
form the record has in the document and whatever else is there.

The property at the bottom is the size of whole numbers: digits are gathered only as long
as their number fits in 64 bits.
-/
import NameLint.Json.Record
import NameLint.Proofs.Except

namespace NameLint.Json

variable {α β σ : Type} {P : α → Prop} {Q : β → Prop} {read : Read α}

/-- That all results of a reader have a property. -/
def Ensures (read : Read α) (P : α → Prop) : Prop :=
  ∀ cs a rest, read cs = .ok (a, rest) → P a

/-! ### Steps -/

theorem ensures_pure {a : α} (h : P a) : Ensures (pure a) P := by
  rintro cs b rest hb
  cases hb
  exact h

theorem ensures_fail (e : ReadError) : Ensures (fail e) P := by
  rintro cs a rest ⟨⟩

theorem ensures_bind {k : α → Read β} (hread : Ensures read P) (hk : ∀ a, P a → Ensures (k a) Q) :
    Ensures (read >>= k) Q := by
  intro cs b rest h
  obtain ⟨a, left, ha, hb⟩ := run_bind_eq_ok.mp h
  exact hk a (hread cs a left ha) left b rest hb

theorem ensures_trivial (read : Read α) : Ensures read fun _ => True :=
  fun _ _ _ _ => trivial

/-- What a step in front gives may be of no interest. -/
theorem ensures_then {k : α → Read β} (read : Read α) (hk : ∀ a, Ensures (k a) Q) :
    Ensures (read >>= k) Q :=
  ensures_bind (ensures_trivial read) fun a _ => hk a

theorem ensures_map {f : α → β} (hread : Ensures read P) (hf : ∀ a, P a → Q (f a)) :
    Ensures (f <$> read) Q :=
  ensures_bind hread fun a ha => ensures_pure (hf a ha)

/-- A value of the wrong shape gives nothing. -/
theorem ensures_refuse (expected : String) : Ensures (refuse expected) P := by
  intro cs a rest h
  unfold refuse at h
  split at h
  · cases h
  · exact ensures_then _ (fun _ => ensures_fail _) _ a rest h
  · exact ensures_then _ (fun _ => ensures_fail _) _ a rest h
  · exact ensures_then _ (fun _ => ensures_fail _) _ a rest h
  · exact ensures_then _ (fun _ => ensures_fail _) _ a rest h
  · cases h
  · cases h
  · split at h
    · exact ensures_then _ (fun _ => ensures_fail _) _ a rest h
    · cases h

/-! ### Numbers -/

theorem gatherDigits_lt {n : Nat} (hn : n < Nat.pow 2 64) (count : Nat) (cs : List Char) :
    (gatherDigits n count cs).1 < Nat.pow 2 64 := by
  induction cs generalizing n count with
  | nil => exact hn
  | cons c cs ih =>
      unfold gatherDigits
      split
      · rename_i h
        exact ih h.2 _
      · exact hn

/-- That a number is below the given bound if it is a whole one. -/
def Number.Below (bound : Nat) : Number → Prop
  | .int i => i < bound
  | .float _ => True

theorem ensures_scaledNumber (negative : Bool) (digits : Nat) (exponent : Int) :
    Ensures (scaledNumber negative digits exponent) (Number.Below (Nat.pow 2 64)) := by
  intro cs x rest h
  unfold scaledNumber at h
  split at h
  · cases h
    trivial
  · cases h

theorem ensures_exponent (negative : Bool) (digits : Nat) (start : Int) :
    Ensures (exponent negative digits start) (Number.Below (Nat.pow 2 64)) := by
  intro cs x rest h
  unfold exponent at h
  dsimp only at h
  generalize (if cs.head? = some '-' ∨ cs.head? = some '+' then cs.tail else cs) = left at h
  split at h
  · cases h
  · split at h
    · cases h
    · split at h
      · exact ensures_scaledNumber _ _ _ _ _ _ h
      · split at h
        · cases h
        · cases h
          trivial

theorem ensures_exponentIfAny (negative : Bool) (digits : Nat) (start : Int) :
    Ensures (exponentIfAny negative digits start) (Number.Below (Nat.pow 2 64)) := by
  intro cs x rest h
  unfold exponentIfAny at h
  split at h
  · exact ensures_exponent _ _ _ _ _ _ h
  · exact ensures_exponent _ _ _ _ _ _ h
  · exact ensures_scaledNumber _ _ _ _ _ _ h

theorem ensures_fraction (negative : Bool) (digits : Nat) (start : Int) :
    Ensures (fraction negative digits start) (Number.Below (Nat.pow 2 64)) := by
  intro cs x rest h
  unfold fraction at h
  dsimp only at h
  split at h
  · exact ensures_exponentIfAny _ _ _ _ _ _ h
  · split at h
    · cases h
    · exact ensures_exponentIfAny _ _ _ _ _ _ h

theorem ensures_afterDigits (negative : Bool) {n : Nat} (hn : n < Nat.pow 2 64) :
    Ensures (afterDigits negative n) (Number.Below (Nat.pow 2 64)) := by
  intro cs x rest h
  unfold afterDigits at h
  split at h
  · exact ensures_fraction _ _ _ _ _ _ h
  · exact ensures_exponent _ _ _ _ _ _ h
  · exact ensures_exponent _ _ _ _ _ _ h
  · split at h
    · cases h
      exact Int.ofNat_lt.mpr hn
    · split at h
      · cases h
        show -(n : Int) < _
        omega
      · exact ensures_scaledNumber _ _ _ _ _ _ h

theorem ensures_unsignedNumber (negative : Bool) :
    Ensures (unsignedNumber negative) (Number.Below (Nat.pow 2 64)) := by
  intro cs x rest h
  unfold unsignedNumber at h
  dsimp only at h
  split at h
  · cases h
  · split at h
    · cases h
    · split at h
      · split at h
        · cases h
        · exact ensures_afterDigits negative (by decide) _ _ _ h
      · split at h
        · exact ensures_afterDigits negative (gatherDigits_lt (by decide) 0 cs) _ _ _ h
        · split at h
          · exact ensures_fraction _ _ _ _ _ _ h
          · exact ensures_exponentIfAny _ _ _ _ _ _ h

theorem ensures_number : Ensures number (Number.Below (Nat.pow 2 64)) := by
  intro cs x rest h
  unfold number at h
  split at h
  · exact ensures_unsignedNumber true _ _ _ h
  · exact ensures_unsignedNumber false _ _ _ h

/-- A whole number that is read has 64 bits. -/
theorem ensures_natural : Ensures natural (· < Nat.pow 2 64) := by
  intro cs n rest h
  unfold natural at h
  dsimp only at h
  split at h
  · refine ensures_bind (Q := (· < Nat.pow 2 64)) ensures_number (fun x hx => ?_) _ n rest h
    cases x with
    | int i =>
        have hi : i < (Nat.pow 2 64 : Nat) := hx
        dsimp only
        split
        · exact ensures_pure (by omega)
        · exact ensures_fail _
    | float x => exact ensures_fail _
  · exact ensures_refuse (P := (· < Nat.pow 2 64)) _ _ _ _ h

/-! ### Lists -/

theorem ensures_item? (hread : Ensures read P) (first : Bool) :
    Ensures (item? read first) (∀ a ∈ ·, P a) := by
  refine ensures_then _ fun more => ?_
  split
  · exact ensures_map hread fun a ha b hb => by cases hb; exact ha
  · exact ensures_pure fun a ha => by cases ha

theorem ensures_itemsFrom (hread : Ensures read P) (fuel : Nat) (first : Bool) :
    Ensures (itemsFrom read fuel first) (∀ a ∈ ·, P a) := by
  induction fuel generalizing first with
  | zero => rintro cs as rest ⟨⟩
  | succ fuel ih =>
      refine ensures_bind (ensures_item? hread first) fun o ho => ?_
      cases o with
      | none => exact ensures_pure (by simp)
      | some a =>
          exact ensures_map (ih false) fun as has => List.forall_mem_cons.mpr ⟨ho a rfl, has⟩

theorem ensures_listOf (hread : Ensures read P) : Ensures (listOf read) (∀ a ∈ ·, P a) := by
  intro cs as rest h
  unfold listOf at h
  split at h
  · refine ensures_bind (Q := (∀ a ∈ ·, P a))
      (fun cs => ensures_itemsFrom hread (cs.length + 1) true cs) (fun as has => ?_) _ as rest h
    exact ensures_then _ fun _ => ensures_pure has
  · exact ensures_refuse (P := (∀ a ∈ ·, P a)) _ _ as rest h

/-! ### Records -/

theorem ensures_record {name : String} {ofList ofDict : Read α} (hlist : Ensures ofList P)
    (hdict : Ensures ofDict P) : Ensures (record name ofList ofDict) P := by
  intro cs a rest h
  unfold record at h
  split at h
  · exact ensures_bind hlist (fun a ha => ensures_then _ fun _ => ensures_pure ha) _ a rest h
  · exact ensures_bind hdict (fun a ha => ensures_then _ fun _ => ensures_pure ha) _ a rest h
  · exact ensures_refuse _ _ a rest h

theorem ensures_fieldAt (hread : Ensures read P) (record : String) (count place : Nat) :
    Ensures (fieldAt record count place read) P := by
  refine ensures_bind (ensures_item? hread _) fun o ho => ?_
  cases o with
  | none => exact ensures_fail _
  | some a => exact ensures_pure (ho a rfl)

theorem ensures_fieldAtOr {default : α} (hdefault : P default) (hread : Ensures read P)
    (place : Nat) : Ensures (fieldAtOr default place read) P := by
  refine ensures_bind (ensures_item? hread _) fun o ho => ?_
  cases o with
  | none => exact ensures_pure hdefault
  | some a => exact ensures_pure (ho a rfl)

variable {I : σ → Prop} {step : String → σ → Read σ} {start : σ}

theorem ensures_entriesFrom (hstep : ∀ key s, I s → Ensures (step key s) I) (fuel : Nat)
    (first : Bool) {s : σ} (hs : I s) : Ensures (entriesFrom step fuel first s) I := by
  induction fuel generalizing first s with
  | zero => rintro cs t rest ⟨⟩
  | succ fuel ih =>
      refine ensures_then _ fun o => ?_
      cases o with
      | none => exact ensures_pure hs
      | some key => exact ensures_bind (hstep key s hs) fun t ht => ih false ht

/-- What every entry keeps holds of what they all build. -/
theorem ensures_entries (hstart : I start) (hstep : ∀ key s, I s → Ensures (step key s) I) :
    Ensures (entries step start) I :=
  fun cs => ensures_entriesFrom hstep (cs.length + 1) true hstart cs

theorem ensures_fieldOnce {field : String} {current : Option α} {put : α → σ}
    (hread : Ensures read P) (hput : ∀ a, P a → I (put a)) :
    Ensures (fieldOnce field current read put) I := by
  unfold fieldOnce
  dsimp only
  split
  · exact ensures_bind (ensures_fail (P := fun _ => False) _) fun _ hfalse => hfalse.elim
  · exact ensures_then _ fun _ => ensures_map hread hput

theorem ensures_unknownField {s : σ} (hs : I s) : Ensures (unknownField s) I :=
  ensures_then _ fun _ => ensures_then _ fun _ => ensures_pure hs

theorem ensures_present {field : String} {o : Option α} (ho : ∀ a ∈ o, P a) :
    Ensures (present field o) P := by
  cases o with
  | none => exact ensures_fail _
  | some a => exact ensures_pure (ho a rfl)

theorem ensures_document {source : String} {a : α} (hread : Ensures read P)
    (h : document read source = .ok a) : P a := by
  obtain ⟨⟨b, rest⟩, hb, hend⟩ := bind_eq_ok.mp h
  dsimp only at hend
  split at hend
  · cases hend
    exact hread _ _ rest hb
  · cases hend

end NameLint.Json

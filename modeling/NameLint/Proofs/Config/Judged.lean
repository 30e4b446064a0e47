/-
Checks that decide.

Reading part of a configuration decides whether a value is what its key asks for, and
gives what it stands for.  `Judges p Q` says both of a check: it ends well exactly if `p`
holds, and then with something that `Q` holds of; otherwise it has something to say, and
nothing of that is more than a matter of style.  Like the keys that diagnostics name, this
carries over from the checks to the readers that are put together from them.
-/
import Mathlib.Data.List.Forall2
import NameLint.Proofs.Config.Checked

namespace NameLint

namespace Checked

variable {α β γ : Type} {p q : Prop} {Q : α → Prop} {R : β → Prop} {c : Checked α}

/-- That a check ends well exactly if `p` holds, with something that `Q` holds of. -/
def Judges (p : Prop) (Q : α → Prop) : Checked α → Prop
  | .ok a => p ∧ Q a
  | .error ds => ¬ p ∧ ds ≠ [] ∧ ∀ d ∈ ds, d.severity = .style

/-! ### What a judgement says -/

theorem Judges.exists_ok (h : Judges p Q c) (hp : p) : ∃ a, c = .ok a ∧ Q a := by
  cases c with
  | ok a => exact ⟨a, rfl, h.2⟩
  | error ds => exact absurd hp h.1

theorem Judges.of_eq_ok {a : α} (h : Judges p Q c) (hc : c = .ok a) : Q a := by
  rw [hc] at h
  exact h.2

/-- A check never fails without a word. -/
theorem Judges.ne_error_nil (h : Judges p Q c) : c ≠ .error [] := by
  rintro rfl
  exact h.2.1 rfl

theorem Judges.diagnostics_eq_nil_iff (h : Judges p Q c) : c.diagnostics = [] ↔ p := by
  cases c with
  | ok a => exact iff_of_true rfl h.1
  | error ds => exact iff_of_false h.2.1 h.1

theorem Judges.severity_eq (h : Judges p Q c) : ∀ d ∈ c.diagnostics, d.severity = .style := by
  cases c with
  | ok a => intro d hd; cases hd
  | error ds => exact h.2.2

theorem Judges.congr (h : Judges p Q c) (hpq : p ↔ q) : Judges q Q c := by
  have heq : p = q := propext hpq
  rwa [← heq]

theorem Judges.imp {Q' : α → Prop} (h : Judges p Q c) (hQ : ∀ a, Q a → Q' a) : Judges p Q' c := by
  cases c with
  | ok a => exact ⟨h.1, hQ a h.2⟩
  | error ds => exact h

/-! ### Putting checks together -/

theorem judges_pure {a : α} (hp : p) (ha : Q a) : Judges p Q (pure a) :=
  ⟨hp, ha⟩

theorem judges_defect {d : Diagnostic} (hp : ¬ p) (hd : d.severity = .style) :
    Judges p Q (defect d) := by
  refine ⟨hp, List.cons_ne_nil _ _, ?_⟩
  intro d' hd'
  rw [List.mem_singleton.mp hd', hd]

/-- A second check decides the rest of what the first one leaves open. -/
theorem judges_bind {f : α → Checked β} (hc : Judges p Q c) (hqp : q → p)
    (hf : ∀ a, Q a → Judges q R (f a)) : Judges q R (c >>= f) := by
  cases c with
  | ok a => exact hf a hc.2
  | error ds => exact ⟨fun hq => hc.1 (hqp hq), hc.2⟩

theorem judges_map {g : α → β} (hc : Judges p Q c) (hg : ∀ a, Q a → R (g a)) :
    Judges p R (c >>= fun a => pure (g a)) := by
  cases c with
  | ok a => exact ⟨hc.1, hg a hc.2⟩
  | error ds => exact hc

/-- A list is what is asked for if each of its items is. -/
theorem judges_gather {f : γ → Checked α} {p : γ → Prop} {Q : γ → α → Prop} (items : List γ)
    (h : ∀ x ∈ items, Judges (p x) (Q x) (f x)) :
    Judges (∀ x ∈ items, p x) (List.Forall₂ Q items) (gather (items.map f)) := by
  induction items with
  | nil => exact ⟨by simp, .nil⟩
  | cons x rest ih =>
      have hx := h x (by simp)
      have hrest := ih fun y hy => h y (by simp [hy])
      rw [List.map_cons]
      cases hfx : f x with
      | ok a =>
          rw [hfx] at hx
          cases hgather : gather (rest.map f) with
          | ok as =>
              rw [hgather] at hrest
              rw [gather, hgather]
              exact ⟨List.forall_mem_cons.mpr ⟨hx.1, hrest.1⟩, .cons hx.2 hrest.2⟩
          | error ds =>
              rw [hgather] at hrest
              rw [gather, hgather]
              exact ⟨fun hall => hrest.1 (List.forall_mem_cons.mp hall).2, hrest.2⟩
      | error ds =>
          rw [hfx] at hx
          rw [gather]
          refine ⟨fun hall => hx.1 (List.forall_mem_cons.mp hall).1, ?_, ?_⟩
          · simp [hx.2.1]
          · intro d hd
            rcases List.mem_append.mp hd with hd | hd
            · exact hx.2.2 d hd
            · exact hrest.severity_eq d hd

/-! ### Values -/

theorem truth_judges (key : String) (value : Json) :
    Judges (∃ b, value = .bool b) (value = .bool ·) (truth key value) := by
  cases value with
  | bool b => exact judges_pure ⟨b, rfl⟩ rfl
  | _ => exact judges_defect (by simp) rfl

theorem text_judges (key : String) (value : Json) :
    Judges (∃ s, value = .str s) (value = .str ·) (text key value) := by
  cases value with
  | str s => exact judges_pure ⟨s, rfl⟩ rfl
  | _ => exact judges_defect (by simp) rfl

theorem lineCount_judges (key : String) (value : Json) :
    Judges (∃ n : Nat, value = .int n) (fun n : Nat => value = .int n) (lineCount key value) := by
  unfold lineCount
  split
  · rename_i n
    exact judges_pure ⟨n, rfl⟩ rfl
  · refine judges_defect ?_ rfl
    rintro ⟨n, hn⟩
    cases hn
  · rename_i hnatural _
    refine judges_defect ?_ rfl
    rintro ⟨n, hn⟩
    exact hnatural n hn

end Checked

end NameLint

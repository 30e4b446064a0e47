/-
When steps that may fail end well.

Readers and checks are put together with `bind`, and most of what is shown about them
begins by taking a result apart into the results of the steps.
-/
import Mathlib.Data.List.Forall2

namespace NameLint

/-- Two steps end well if both do, the second one on what the first one gives. -/
theorem bind_eq_ok {ε α β : Type} {x : Except ε α} {f : α → Except ε β} {b : β} :
    x >>= f = .ok b ↔ ∃ a, x = .ok a ∧ f a = .ok b := by
  cases x with
  | ok a => simp [bind, Except.bind]
  | error e => simp [bind, Except.bind]

/-- What is made of a result in the end cannot fail. -/
theorem exists_bind_pure_iff {ε α β : Type} {x : Except ε α} {f : α → β} :
    (∃ b, (x >>= fun a => pure (f a)) = .ok b) ↔ ∃ a, x = .ok a := by
  constructor
  · rintro ⟨b, hb⟩
    obtain ⟨a, ha, -⟩ := bind_eq_ok.mp hb
    exact ⟨a, ha⟩
  · rintro ⟨a, rfl⟩
    exact ⟨f a, rfl⟩

section Lists

variable {ε α β : Type} {f : α → Except ε β} {as : List α} {bs : List β}

/-- Going through a list ends well if it does at every item, and gives what the items give. -/
theorem mapM_eq_ok_iff : as.mapM f = .ok bs ↔ List.Forall₂ (fun a b => f a = .ok b) as bs := by
  induction as generalizing bs with
  | nil => cases bs <;> simp [pure, Except.pure]
  | cons a as ih =>
      simp only [List.mapM_cons, bind_eq_ok, ih]
      constructor
      · rintro ⟨b, hb, rest, hrest, heq⟩
        cases heq
        exact .cons hb hrest
      · rintro (_ | ⟨hb, hrest⟩)
        exact ⟨_, hb, _, hrest, rfl⟩

theorem exists_mapM_eq_ok_iff : (∃ bs, as.mapM f = .ok bs) ↔ ∀ a ∈ as, ∃ b, f a = .ok b := by
  simp only [mapM_eq_ok_iff]
  induction as with
  | nil => exact iff_of_true ⟨[], .nil⟩ nofun
  | cons a as ih =>
      rw [List.forall_mem_cons, ← ih]
      constructor
      · rintro ⟨_, _ | ⟨hb, hrest⟩⟩
        exact ⟨⟨_, hb⟩, _, hrest⟩
      · rintro ⟨⟨b, hb⟩, bs, hrest⟩
        exact ⟨b :: bs, .cons hb hrest⟩

end Lists

section Readers

variable {σ ε α β : Type} {m : StateT σ (Except ε) α} {k : α → StateT σ (Except ε) β} {s t : σ}

/-- After a step that ends well comes the next one, with what is left. -/
theorem run_bind_of_ok {a : α} (h : m s = .ok (a, t)) (k : α → StateT σ (Except ε) β) :
    (m >>= k) s = k a t := by
  show (m s >>= fun p => k p.1 p.2) = _
  rw [h]
  rfl

theorem run_map_of_ok {a : α} (h : m s = .ok (a, t)) (f : α → β) :
    (f <$> m) s = .ok (f a, t) :=
  run_bind_of_ok h fun a => pure (f a)

/-- Two steps of a reader end well if both do. -/
theorem run_bind_eq_ok {b : β} :
    (m >>= k) s = .ok (b, t) ↔ ∃ a u, m s = .ok (a, u) ∧ k a u = .ok (b, t) := by
  constructor
  · intro h
    obtain ⟨⟨a, u⟩, hm, hk⟩ := bind_eq_ok.mp h
    exact ⟨a, u, hm, hk⟩
  · rintro ⟨a, u, hm, hk⟩
    exact (run_bind_of_ok hm k).trans hk

end Readers

end NameLint

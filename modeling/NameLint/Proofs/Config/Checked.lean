/-
Every diagnostic names the key that was read.

Readers are put together from a few checks with `bind` and `gather`, so a property of the
diagnostics of the checks carries over to every reader as soon as these two keep it.  The
property here is `Names key`: whatever is wrong is said of that key.  An option of the
include guards is said to be wrong under its full key, the key of the dictionary with the
name of the option after a dot.

`diagnostics_gather` is the other half: a list loses no diagnostics and gains none, however
good and bad items are mixed.  `gather_map_eq_ok_iff` says the same of the values.
-/
import Mathlib.Data.List.Forall2
import NameLint.Proofs.Config.EntryReaders

namespace NameLint

namespace Checked

variable {α β : Type}

/-! ### Checks one after another -/

theorem mem_diagnostics_bind {c : Checked α} {f : α → Checked β} {d : Diagnostic}
    (h : d ∈ (c >>= f).diagnostics) :
    d ∈ c.diagnostics ∨ ∃ a, c = .ok a ∧ d ∈ (f a).diagnostics := by
  cases c with
  | ok a => exact Or.inr ⟨a, rfl, h⟩
  | error ds => exact Or.inl h

/-- What is made of a value in the end adds nothing to what is wrong. -/
@[simp]
theorem diagnostics_map (c : Checked α) (g : α → β) :
    (c >>= fun a => pure (g a)).diagnostics = c.diagnostics := by
  cases c <;> rfl

/-- The diagnostics of a list are those of its items, in order. -/
@[simp]
theorem diagnostics_gather (cs : List (Checked α)) :
    (gather cs).diagnostics = cs.flatMap diagnostics := by
  induction cs with
  | nil => rfl
  | cons c rest ih =>
      cases c with
      | ok a =>
          rw [List.flatMap_cons, ← ih]
          show (gather (.ok a :: rest)).diagnostics = [] ++ (gather rest).diagnostics
          cases hrest : gather rest <;> simp [gather, hrest]
      | error ds =>
          rw [List.flatMap_cons, ← ih]
          rfl

/-- A list gives values if each of its items does, and these values in order. -/
theorem gather_map_eq_ok_iff {f : α → Checked β} {items : List α} {values : List β} :
    gather (items.map f) = .ok values ↔ List.Forall₂ (fun x y => f x = .ok y) items values := by
  induction items generalizing values with
  | nil => cases values <;> simp [gather]
  | cons x rest ih =>
      rw [List.map_cons]
      cases hx : f x with
      | error ds => cases values <;> simp [gather, hx]
      | ok y =>
          cases hrest : gather (rest.map f) with
          | error ds => cases values <;> simp [gather, hx, hrest, ← ih]
          | ok ys => cases values <;> simp [gather, hx, hrest, ← ih]

/-! ### The key that is named -/

/-- All that is wrong is said of the given key. -/
def Names (key : String) (c : Checked α) : Prop :=
  ∀ d ∈ c.diagnostics, d.key = key

theorem names_pure (key : String) (a : α) : Names key (pure a) := by
  intro d hd
  simp at hd

theorem names_defect {key : String} {d : Diagnostic} (h : d.key = key) :
    Names key (defect d : Checked α) := by
  intro d' hd
  rw [diagnostics_defect, List.mem_singleton] at hd
  rw [hd, h]

theorem wrongShape_names (key expected : String) (value : Json) :
    Names key (wrongShape key expected value : Checked α) :=
  names_defect rfl

theorem names_bind {key : String} {c : Checked α} {f : α → Checked β} (hc : Names key c)
    (hf : ∀ a, Names key (f a)) : Names key (c >>= f) := by
  intro d hd
  rcases mem_diagnostics_bind hd with h | ⟨a, -, h⟩
  · exact hc d h
  · exact hf a d h

theorem names_gather {key : String} {cs : List (Checked α)} (h : ∀ c ∈ cs, Names key c) :
    Names key (gather cs) := by
  intro d hd
  rw [diagnostics_gather, List.mem_flatMap] at hd
  obtain ⟨c, hc, hdc⟩ := hd
  exact h c hc d hdc

theorem truth_names (key : String) (value : Json) : Names key (truth key value) := by
  cases value with
  | bool b => exact names_pure key b
  | _ => exact wrongShape_names key _ _

theorem text_names (key : String) (value : Json) : Names key (text key value) := by
  cases value with
  | str s => exact names_pure key s
  | _ => exact wrongShape_names key _ _

theorem lineCount_names (key : String) (value : Json) : Names key (lineCount key value) := by
  unfold lineCount
  split
  · exact names_pure key _
  · exact names_defect rfl
  · exact names_defect rfl

end Checked

namespace Config

open Checked

/-! ### Rules and prefix tables -/

theorem readPattern_names (key raw : String) : Names key (readPattern key raw) := by
  unfold readPattern
  split
  · exact names_pure key _
  · exact names_defect rfl

theorem readRequired_names (key raw : String) : Names key (readRequired key raw) :=
  names_bind (readPattern_names key raw) fun _ => names_pure key _

theorem readListItem_names (key : String) (item : Json) : Names key (readListItem key item) := by
  cases item with
  | str raw => exact readRequired_names key raw
  | _ => exact names_defect rfl

theorem readOutcome_names (key : String) (entry : String × Json) :
    Names key (readOutcome key entry) := by
  unfold readOutcome
  split
  · exact names_defect rfl
  · exact names_bind (readPattern_names key entry.1) fun _ => names_pure key _

theorem readRule_names (key : String) (value : Json) : Names key (readRule key value) := by
  cases value with
  | str raw => exact names_bind (readRequired_names key raw) fun _ => names_pure key _
  | list items =>
      refine names_bind (names_gather fun c hc => ?_) fun _ => names_pure key _
      obtain ⟨item, -, rfl⟩ := List.mem_map.mp hc
      exact readListItem_names key item
  | dict entries =>
      refine names_bind (names_gather fun c hc => ?_) fun _ => names_pure key _
      obtain ⟨entry, -, rfl⟩ := List.mem_map.mp hc
      exact readOutcome_names key entry
  | _ => exact wrongShape_names key _ _

theorem readPrefix_names (key : String) (entry : String × Json) :
    Names key (readPrefix key entry) := by
  unfold readPrefix
  split
  · exact names_pure key _
  · exact names_defect rfl

theorem readPrefixes_names (key : String) (value : Json) : Names key (readPrefixes key value) := by
  cases value with
  | dict entries =>
      refine names_bind (names_gather fun c hc => ?_) fun _ => names_pure key _
      obtain ⟨entry, -, rfl⟩ := List.mem_map.mp hc
      exact readPrefix_names key entry
  | _ => exact wrongShape_names key _ _

/-! ### Include guards -/

theorem readChoice_names {α : Type} (key choices : String) (ofName? : String → Option α)
    (value : Json) : Names key (readChoice key choices ofName? value) := by
  refine names_bind (text_names key value) fun name => ?_
  cases ofName? name with
  | some a => exact names_pure key a
  | none => exact names_defect rfl

theorem readOption_names (option key : String) (value : Json) :
    Names key (readOption option key value) := by
  unfold readOption
  split
  · exact names_bind (truth_names key value) fun _ => names_pure key _
  · exact names_bind (readChoice_names key _ _ value) fun _ => names_pure key _
  · exact names_bind (readChoice_names key _ _ value) fun _ => names_pure key _
  · exact names_bind (text_names key value) fun _ => names_pure key _
  · exact names_bind (text_names key value) fun _ => names_pure key _
  · exact names_bind (lineCount_names key value) fun _ => names_pure key _
  · exact names_bind (text_names key value) fun _ =>
      names_bind (readPattern_names key _) fun _ => names_pure key _
  · split
    · exact names_pure key _
    · exact names_defect rfl

theorem readGuardEntry_names (key : String) (entry : String × Json) :
    Names (key ++ "." ++ entry.1) (readGuardEntry key entry) := by
  unfold readGuardEntry
  split
  · exact names_pure _ _
  · exact readOption_names entry.1 _ _

/-- What is wrong with an include guard is said of its key, or of an option of it. -/
theorem key_of_mem_readGuard {key : String} {value : Json} {d : Diagnostic}
    (h : d ∈ (readGuard key value).diagnostics) :
    d.key = key ∨ ∃ option, d.key = key ++ "." ++ option := by
  cases value with
  | dict entries =>
      rcases mem_diagnostics_bind h with hg | ⟨changes, -, hg⟩
      · rw [diagnostics_gather, List.mem_flatMap] at hg
        obtain ⟨c, hc, hd⟩ := hg
        obtain ⟨entry, -, rfl⟩ := List.mem_map.mp hc
        exact Or.inr ⟨entry.1, readGuardEntry_names key entry d hd⟩
      · simp at hg
  | _ => exact Or.inl (wrongShape_names key _ _ d h)

end Config

end NameLint

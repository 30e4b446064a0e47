/-
Steps that only look at files.

`Reads t x p` says of a step that, on files in state `t`, it leaves all as it is and gives
something that satisfies `p`.  This is kept by putting steps one after the other, so it
follows the programs part by part.  Without a `p` it says that the step only looks at files;
then whatever comes next is done on the same files (`Reads.run_bind`).

Steps that may give up in the middle have their own form, `TryReads`: there `p` is asked of
what is given if the step does not give up.
-/
import NameLint.File.Tree

namespace NameLint

variable {σ α β ε : Type} {t : σ} {p : α → Prop} {q : β → Prop}

/-! ### Steps -/

/-- That a step leaves files in state `t` as they are, and that what it gives satisfies `p`. -/
def Reads (t : σ) (x : StateM σ α) (p : α → Prop := fun _ => True) : Prop :=
  (x t).2 = t ∧ p (x t).1

namespace Reads

theorem pure {a : α} (h : p a) : Reads t (Pure.pure a) p := ⟨rfl, h⟩

theorem bind {x : StateM σ α} {f : α → StateM σ β} (hx : Reads t x p)
    (hf : ∀ a, p a → Reads t (f a) q) : Reads t (x >>= f) q := by
  show (f (x t).1 (x t).2).2 = t ∧ q (f (x t).1 (x t).2).1
  rw [hx.1]
  exact hf (x t).1 hx.2

/-- A step gives what it gives. -/
theorem given {x : StateM σ α} (hx : Reads t x p) : Reads t x fun a => a = (x t).1 :=
  ⟨hx.1, rfl⟩

theorem run_bind {x : StateM σ α} (hx : Reads t x p) (f : α → StateM σ β) :
    (x >>= f) t = f (x t).1 t := by
  show f (x t).1 (x t).2 = _
  rw [hx.1]

/-! ### Loops -/

/-- Looking for many things is looking for each of them. -/
theorem run_mapM {f : α → StateM σ β} (hf : ∀ a, Reads t (f a)) :
    ∀ l : List α, l.mapM f t = (l.map fun a => (f a t).1, t) := by
  intro l
  induction l with
  | nil => rfl
  | cons a rest ih =>
      rw [List.mapM_cons, (hf a).run_bind]
      show (let r := rest.mapM f t; ((f a t).1 :: r.1, r.2)) = _
      rw [ih]
      rfl

theorem mapM {f : α → StateM σ β} (hf : ∀ a, Reads t (f a)) (l : List α) :
    Reads t (l.mapM f) := by
  rw [Reads, run_mapM hf]
  exact ⟨rfl, trivial⟩

theorem anyM {f : α → StateM σ Bool} (hf : ∀ a, Reads t (f a)) :
    ∀ l : List α, Reads t (l.anyM f) := by
  intro l
  induction l with
  | nil => exact pure trivial
  | cons a rest ih =>
      refine bind (hf a) fun b _ => ?_
      cases b with
      | true => exact pure trivial
      | false => exact ih

end Reads

/-! ### Steps that may give up -/

/-- That a step leaves files in state `t` as they are, and that what it gives, unless it gives
up, satisfies `p`. -/
def TryReads (t : σ) (x : ExceptT ε (StateM σ) α) (p : α → Prop := fun _ => True) : Prop :=
  Reads t x.run fun r => ∀ a, r = .ok a → p a

namespace TryReads

theorem pure {a : α} (h : p a) : TryReads t (Pure.pure a : ExceptT ε (StateM σ) α) p := by
  refine Reads.pure fun b hb => ?_
  cases hb
  exact h

theorem throw (e : ε) : TryReads t (throw e : ExceptT ε (StateM σ) α) p :=
  Reads.pure fun _ h => nomatch h

theorem bind {x : ExceptT ε (StateM σ) α} {f : α → ExceptT ε (StateM σ) β} (hx : TryReads t x p)
    (hf : ∀ a, p a → TryReads t (f a) q) : TryReads t (x >>= f) q := by
  show Reads t (x.run >>= ExceptT.bindCont f) _
  refine Reads.bind hx fun r hr => ?_
  cases r with
  | ok a => exact hf a (hr a rfl)
  | error e => exact throw e

theorem throw_bind (e : ε) (f : α → ExceptT ε (StateM σ) β) :
    TryReads t (MonadExcept.throw e >>= f) q :=
  throw e

theorem lift {x : StateM σ α} (hx : Reads t x p) :
    TryReads t (ExceptT.lift x : ExceptT ε (StateM σ) α) p := by
  refine ⟨hx.1, fun a ha => ?_⟩
  obtain rfl : (x t).1 = a := Except.ok.inj ha
  exact hx.2

theorem mapM {f : α → ExceptT ε (StateM σ) β} (hf : ∀ a, TryReads t (f a) q) :
    ∀ l : List α, TryReads t (l.mapM f) fun bs => ∀ b ∈ bs, q b := by
  intro l
  induction l with
  | nil =>
      rw [List.mapM_nil]
      exact pure fun b hb => absurd hb List.not_mem_nil
  | cons a rest ih =>
      rw [List.mapM_cons]
      refine bind (hf a) fun b hb => bind ih fun bs hbs => pure ?_
      exact List.forall_mem_cons.mpr ⟨hb, hbs⟩

theorem foldlM {f : β → α → ExceptT ε (StateM σ) β} (hf : ∀ b a, TryReads t (f b a)) :
    ∀ (l : List α) (b : β), TryReads t (l.foldlM f b) := by
  intro l
  induction l with
  | nil => exact fun b => pure trivial
  | cons a rest ih =>
      intro b
      rw [List.foldlM_cons]
      exact bind (hf b a) fun b' _ => ih b'

end TryReads

/-! ### Access to files -/

namespace FileAccess

/-- That everything but writing only looks at the files. -/
structure IsReadOnly (files : FileAccess (StateM σ)) : Prop where
  /-- Asking what stands at a path changes nothing. -/
  kind : ∀ t path, Reads t (files.kind path)
  /-- Listing a directory changes nothing. -/
  list : ∀ t path, Reads t (files.list path)
  /-- Reading a file changes nothing. -/
  read : ∀ t path, Reads t (files.read path)
  /-- Following a path changes nothing. -/
  canonical : ∀ t path, Reads t (files.canonical path)

namespace IsReadOnly

variable {files : FileAccess (StateM σ)} (h : files.IsReadOnly) (t : σ) (path : Path)
include h

theorem readText : Reads t (files.readText path) :=
  (h.read t path).bind fun _ _ => .pure trivial

theorem isFile : Reads t (files.isFile path) :=
  (h.kind t path).bind fun _ _ => .pure trivial

theorem isPresent : Reads t (files.isPresent path) :=
  (h.kind t path).bind fun _ _ => .pure trivial

end IsReadOnly

end FileAccess

/-- Files that are kept as a value are changed by nothing but writing. -/
theorem FileTree.access_isReadOnly : access.IsReadOnly where
  kind _ _ := ⟨rfl, trivial⟩
  list _ _ := ⟨rfl, trivial⟩
  read _ _ := ⟨rfl, trivial⟩
  canonical _ _ := ⟨rfl, trivial⟩

/-- The text that a file was written with is what is read of it. -/
theorem FileTree.readText_of_read {t : FileTree} {path : Path} {text : String}
    (h : t.read path = .ok text.toUTF8) : (access.readText path t).1 = .ok text := by
  have hdecoded : String.fromUTF8? text.toUTF8 = some text := dif_pos text.isValidUTF8
  show t.read path >>= FileAccess.textOf = _
  rw [h]
  show FileAccess.textOf text.toUTF8 = _
  rw [FileAccess.textOf, hdecoded]

end NameLint

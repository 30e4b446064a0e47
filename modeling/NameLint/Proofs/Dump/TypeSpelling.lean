/-
The canonical spelling of a canonical spelling is the same.

The words of a canonical spelling need not be the words it was made of: a word that starts
with a mark stands right behind the one before it, and from then on the two are one word.
`merged` says which words come together, and joining the merged words gives the same text
as joining the words.
-/
import NameLint.Dump.CompilationUnit
import NameLint.Proofs.Text.Words

namespace NameLint

namespace TypeSpelling

open Text (words isBlank)

/-! ### Words -/

/-- A text that is a word: it is not empty and has no blanks. -/
def IsWord (w : List Char) : Prop :=
  w ≠ [] ∧ ∀ c ∈ w, isBlank c = false

instance (w : List Char) : Decidable (IsWord w) :=
  decidable_of_iff (w ≠ [] ∧ (w.all fun c => !isBlank c) = true) (by simp [IsWord])

theorem words_word_append {w : List Char} (hw : IsWord w) {cs : List Char}
    (hcs : (cs.head?.map isBlank).getD true = true) : words (w ++ cs) = w :: words cs := by
  obtain ⟨hne, hblank⟩ := hw
  induction w with
  | nil => exact absurd rfl hne
  | cons c w ih =>
      have hc : ¬ isBlank c = true := by simp [hblank c List.mem_cons_self]
      rw [List.cons_append, words, if_neg hc]
      cases w with
      | nil => rw [List.nil_append, if_pos hcs]
      | cons d w =>
          have hd := hblank d (List.mem_cons_of_mem c List.mem_cons_self)
          have hrest := ih (List.cons_ne_nil d w) fun e he => hblank e (List.mem_cons_of_mem c he)
          rw [hrest]
          simp [hd]

theorem IsWord.append {w x : List Char} (hw : IsWord w) (hx : IsWord x) : IsWord (w ++ x) := by
  refine ⟨by simp [hw.1], fun c hc => ?_⟩
  rcases List.mem_append.mp hc with hc | hc
  · exact hw.2 c hc
  · exact hx.2 c hc

theorem isWord_singleton {c : Char} (hc : ¬ isBlank c = true) : IsWord [c] :=
  ⟨List.cons_ne_nil _ _, by simpa using hc⟩

theorem isWord_of_mem_words {cs : List Char} : ∀ w ∈ words cs, IsWord w := by
  induction cs with
  | nil => simp [words]
  | cons c cs ih =>
      rw [words]
      split
      · exact ih
      · rename_i hc
        split
        · exact List.forall_mem_cons.mpr ⟨isWord_singleton hc, ih⟩
        · split
          · exact List.forall_mem_cons.mpr ⟨isWord_singleton hc, by simp⟩
          · rename_i w ws hwords
            rw [hwords, List.forall_mem_cons] at ih
            refine List.forall_mem_cons.mpr ⟨(isWord_singleton hc).append ih.1, ih.2⟩

/-! ### Merged words -/

/-- Whether a word stands right behind the word before it. -/
def attaches (w : List Char) : Bool :=
  (w.head?.map isMark).getD false

/-- The words of the canonical spelling that the words `w :: ws` give. -/
def merged (w : List Char) : List (List Char) → List (List Char)
  | [] => [w]
  | x :: xs => if attaches x then merged (w ++ x) xs else w :: merged x xs

theorem following_of_attaches {w : List Char} (h : attaches w = true) : following w = w := if_pos h

theorem following_of_not_attaches {w : List Char} (h : ¬ attaches w = true) :
    following w = ' ' :: w := if_neg h

theorem following_append {w : List Char} (hw : w ≠ []) (x : List Char) :
    following (w ++ x) = following w ++ x := by
  cases w with
  | nil => exact absurd rfl hw
  | cons c w =>
      unfold following
      rw [List.cons_append, List.head?_cons, List.head?_cons]
      split <;> rfl

variable {w : List Char} {ws : List (List Char)}

theorem words_joined (hw : IsWord w) (hws : ∀ x ∈ ws, IsWord x) :
    words (joined (w :: ws)) = merged w ws := by
  induction ws generalizing w with
  | nil => exact words_word_append hw rfl
  | cons x xs ih =>
      have hx := hws x List.mem_cons_self
      have hxs : ∀ y ∈ xs, IsWord y := fun y hy => hws y (List.mem_cons_of_mem x hy)
      rw [joined, List.flatMap_cons, merged]
      split
      · rename_i h
        rw [following_of_attaches h, ← List.append_assoc]
        exact ih (hw.append hx) hxs
      · rename_i h
        rw [following_of_not_attaches h, words_word_append hw (by simp),
          List.cons_append, Text.words_cons_of_isBlank Text.isBlank_space]
        exact congrArg (w :: ·) (ih hx hxs)

theorem flatMap_following_merged (hw : w ≠ []) (hws : ∀ x ∈ ws, x ≠ []) :
    (merged w ws).flatMap following = following w ++ ws.flatMap following := by
  induction ws generalizing w with
  | nil => rfl
  | cons x xs ih =>
      have hx := hws x List.mem_cons_self
      have hxs : ∀ y ∈ xs, y ≠ [] := fun y hy => hws y (List.mem_cons_of_mem x hy)
      rw [merged, List.flatMap_cons]
      split
      · rename_i h
        rw [ih (by simp [hw]) hxs, following_append hw, following_of_attaches h, List.append_assoc]
      · rw [List.flatMap_cons, ih hx hxs]

theorem joined_merged (hw : w ≠ []) (hws : ∀ x ∈ ws, x ≠ []) :
    joined (merged w ws) = joined (w :: ws) := by
  induction ws generalizing w with
  | nil => rfl
  | cons x xs ih =>
      have hx := hws x List.mem_cons_self
      have hxs : ∀ y ∈ xs, y ≠ [] := fun y hy => hws y (List.mem_cons_of_mem x hy)
      rw [merged]
      split
      · rename_i h
        rw [ih (by simp [hw]) hxs, joined, joined, List.flatMap_cons, following_of_attaches h,
          List.append_assoc]
      · rw [joined, flatMap_following_merged hx hxs, joined, List.flatMap_cons]

/-! ### Canonical spellings -/

@[simp]
theorem canonicalChars_canonicalChars (cs : List Char) :
    canonicalChars (canonicalChars cs) = canonicalChars cs := by
  unfold canonicalChars
  cases hwords : words cs with
  | nil => rfl
  | cons w ws =>
      have hmem : ∀ x ∈ w :: ws, IsWord x := fun x hx => isWord_of_mem_words x (hwords ▸ hx)
      have hw := hmem w List.mem_cons_self
      have hws : ∀ x ∈ ws, IsWord x := fun x hx => hmem x (List.mem_cons_of_mem w hx)
      rw [words_joined hw hws, joined_merged hw.1 fun x hx => (hws x hx).1]

/-- A canonical spelling is its own canonical spelling. -/
@[simp]
theorem canonical_canonical (spelling : String) :
    canonical (canonical spelling) = canonical spelling := by
  rw [canonical, canonical, String.toList_ofList, canonicalChars_canonicalChars]

end TypeSpelling

@[simp]
theorem CompilationUnit.canonicalized_canonicalized (u : CompilationUnit) :
    u.canonicalized.canonicalized = u.canonicalized := by
  simp [canonicalized, Function.comp_def]

end NameLint

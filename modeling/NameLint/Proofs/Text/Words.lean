/-
Words are what blanks separate.

`Text.words` builds the words of a text from its end, a character at a time, and looks one
character ahead to see where a word stops.  `words_eq_splitOnP` is the reading that it is
for: cut the text at every blank and drop the empty pieces.
-/
import NameLint.Text.Basic

namespace NameLint.Text

/-! ### Blanks in front -/

@[simp]
theorem isBlank_space : isBlank ' ' = true := by decide

theorem isBlank_of_trimStart_eq_cons {cs rest : List Char} {c : Char}
    (h : trimStart cs = c :: rest) : isBlank c = false := by
  have hhead := List.head?_dropWhile_not isBlank cs
  rw [show cs.dropWhile isBlank = c :: rest from h] at hhead
  simpa using hhead

/-- What a blank in front does not change, all the leading blanks do not change. -/
theorem apply_trimStart {α : Sort _} (f : List Char → α)
    (hblank : ∀ c cs, isBlank c = true → f (c :: cs) = f cs) (cs : List Char) :
    f (trimStart cs) = f cs := by
  induction cs with
  | nil => rfl
  | cons c cs ih =>
      unfold trimStart at ih ⊢
      by_cases hc : isBlank c = true
      · rw [List.dropWhile_cons_of_pos hc, ih, hblank c cs hc]
      · rw [List.dropWhile_cons_of_neg hc]

/-! ### Words -/

/-- A blank in front adds no word. -/
@[simp]
theorem words_cons_of_isBlank {c : Char} (h : isBlank c = true) (cs : List Char) :
    words (c :: cs) = words cs := by
  rw [words, if_pos h]

/-- **The words are the pieces between blanks that are not empty.** -/
theorem words_eq_splitOnP (cs : List Char) :
    words cs = (cs.splitOnP isBlank).filter fun w => !w.isEmpty := by
  induction cs with
  | nil => rfl
  | cons c cs ih =>
      rw [List.splitOnP_cons_eq_if_modifyHead]
      by_cases hc : isBlank c = true
      · rw [words_cons_of_isBlank hc, if_pos hc, ih]
        rfl
      · rw [words, if_neg hc, if_neg hc, ih]
        -- Whether `c` is a word of its own shows in the first piece of the rest.
        cases cs with
        | nil => rfl
        | cons d ds =>
            rw [List.splitOnP_cons_eq_if_modifyHead]
            by_cases hd : isBlank d = true
            · simp [hd]
            · obtain ⟨piece, pieces, hsplit⟩ :=
                List.exists_cons_of_ne_nil (List.splitOnP_ne_nil isBlank ds)
              simp [hd, hsplit]

@[simp]
theorem words_trimStart (cs : List Char) : words (trimStart cs) = words cs :=
  apply_trimStart words (fun _ cs hc => words_cons_of_isBlank hc cs) cs

/-- The first word of a text is what the text starts with, its leading blanks apart. -/
theorem prefix_of_words {cs w : List Char} {ws : List (List Char)} (h : words cs = w :: ws) :
    w <+: trimStart cs := by
  induction cs generalizing w ws with
  | nil => simp [words] at h
  | cons c cs ih =>
      unfold trimStart at ih ⊢
      by_cases hc : isBlank c = true
      · rw [words_cons_of_isBlank hc] at h
        rw [List.dropWhile_cons_of_pos hc]
        exact ih h
      · rw [List.dropWhile_cons_of_neg hc]
        rw [words, if_neg hc] at h
        have hsingle : [c] <+: c :: cs := ⟨cs, rfl⟩
        by_cases hd : (cs.head?.map isBlank).getD true = true
        · rw [if_pos hd] at h
          obtain ⟨rfl, -⟩ := List.cons.inj h
          exact hsingle
        · rw [if_neg hd] at h
          cases hwords : words cs with
          | nil =>
              rw [hwords] at h
              obtain ⟨rfl, -⟩ := List.cons.inj h
              exact hsingle
          | cons first rest =>
              rw [hwords] at h
              obtain ⟨rfl, -⟩ := List.cons.inj h
              -- What follows is no blank, so nothing of it is dropped.
              have hkept : cs.dropWhile isBlank = cs := by
                cases cs with
                | nil => rfl
                | cons d ds => exact List.dropWhile_cons_of_neg (by simpa using hd)
              have hfirst := ih hwords
              rw [hkept] at hfirst
              exact (List.cons_prefix_cons).mpr ⟨rfl, hfirst⟩

end NameLint.Text

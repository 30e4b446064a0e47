/-
Where a pattern is respelled.

`respelled` takes escapes off the front of a pattern, a backslash together with the character
behind it.  A reader of the pattern goes by something else: a `Z` asks for the end of the
name if the backslashes right in front of it are odd in number, since an even number of them
is made of escaped backslashes only.

What links the two is the one bit that a reader needs who goes from character to character:
whether the character before has begun an escape.  `respelledFrom` is the pattern respelled
with that bit, and `beginsEscape_iff_odd` says that after any text it is the parity of the
backslashes at its end.  So a place is respelled or not by what stands in front of it, and
by nothing behind it.
-/
import Mathlib.Algebra.Ring.Parity
import Mathlib.Data.List.DropRight
import NameLint.Pattern
import NameLint.Text.Basic

namespace NameLint.NamePattern

open Text (byteCount)

/-! ### Character by character -/

/-- Whether a character begins an escape; `escaped` if one has begun right before it. -/
def beginsEscape (escaped : Bool) (c : Char) : Bool :=
  !escaped && c = '\\'

/-- What is written for a character; `escaped` if an escape has begun right before it. -/
def respelledChar (escaped : Bool) (c : Char) : Char :=
  if escaped = true ∧ c = 'Z' then 'z' else c

/-- The pattern respelled character by character; `escaped` if an escape has begun before it. -/
def respelledFrom : Bool → List Char → List Char
  | _, [] => []
  | escaped, c :: cs => respelledChar escaped c :: respelledFrom (beginsEscape escaped c) cs

theorem respelledFrom_of_escape (c : Char) (cs : List Char) :
    respelledFrom false ('\\' :: c :: cs)
      = '\\' :: (if c = 'Z' then 'z' else c) :: respelledFrom false cs := by
  simp [respelledFrom, respelledChar, beginsEscape]

theorem respelledFrom_of_ne {c : Char} (hc : c ≠ '\\') (cs : List Char) :
    respelledFrom false (c :: cs) = c :: respelledFrom false cs := by
  simp [respelledFrom, respelledChar, beginsEscape, hc]

/-- Taking whole escapes off the front comes to the same. -/
theorem respelled_eq (text : List Char) : respelled text = respelledFrom false text := by
  fun_induction respelled text with
  | case1 => rfl
  | case2 => rfl
  | case3 c cs ih => rw [respelledFrom_of_escape, ih]
  | case4 c cs hlast hescape ih =>
      have hc : c ≠ '\\' := by
        rintro rfl
        cases cs with
        | nil => exact hlast rfl rfl
        | cons d cs => exact hescape d cs rfl rfl
      rw [respelledFrom_of_ne hc, ih]

/-! ### Places -/

/-- The length of the run of backslashes that a text ends in. -/
def backslashesAtEnd (text : List Char) : Nat :=
  (text.rtakeWhile (· = '\\')).length

/-- That the character at a place is the letter of an escape for the end of the name. -/
def EndEscapeAt (text : List Char) (i : Nat) : Prop :=
  text[i]? = some 'Z' ∧ Odd (backslashesAtEnd (text.take i))

instance (text : List Char) (i : Nat) : Decidable (EndEscapeAt text i) :=
  inferInstanceAs (Decidable (_ ∧ _))

/-- **An escape is open behind a text that ends in an odd number of backslashes.** -/
theorem beginsEscape_iff_odd (text : List Char) :
    text.foldl beginsEscape false = true ↔ Odd (backslashesAtEnd text) := by
  induction text using List.reverseRecOn with
  | nil => simp [backslashesAtEnd]
  | append_singleton text c ih =>
      rw [List.foldl_concat]
      by_cases hc : c = '\\'
      · have hrun : backslashesAtEnd (text ++ [c]) = backslashesAtEnd text + 1 := by
          rw [backslashesAtEnd, List.rtakeWhile_concat_pos _ _ _ (by simpa using hc),
            List.length_append]
          rfl
        rw [hrun, Nat.odd_add_one, ← ih]
        simp [beginsEscape, hc]
      · have hrun : backslashesAtEnd (text ++ [c]) = 0 := by
          rw [backslashesAtEnd, List.rtakeWhile_concat_neg _ _ _ (by simpa using hc)]
          rfl
        simp [hrun, beginsEscape, hc]

theorem getElem?_respelledFrom (text : List Char) (escaped : Bool) (i : Nat) :
    (respelledFrom escaped text)[i]?
      = text[i]?.map (respelledChar ((text.take i).foldl beginsEscape escaped)) := by
  induction text generalizing escaped i with
  | nil => rfl
  | cons c cs ih =>
      cases i with
      | zero => rfl
      | succ i => exact ih (beginsEscape escaped c) i

/-- **At the letters of escapes for the end stands a small letter, and all else stays.** -/
theorem getElem?_respelled (text : List Char) (i : Nat) :
    (respelled text)[i]? = if EndEscapeAt text i then some 'z' else text[i]? := by
  by_cases h : EndEscapeAt text i
  · obtain ⟨hletter, hodd⟩ := h
    rw [if_pos ⟨hletter, hodd⟩, respelled_eq, getElem?_respelledFrom, hletter,
      (beginsEscape_iff_odd _).mpr hodd]
    rfl
  · rw [if_neg h, respelled_eq, getElem?_respelledFrom]
    cases hletter : text[i]? with
    | none => rfl
    | some c =>
        rw [Option.map_some, respelledChar, if_neg]
        rintro ⟨hescaped, rfl⟩
        exact h ⟨hletter, (beginsEscape_iff_odd _).mp hescaped⟩

theorem getElem?_respelled_ne_iff (text : List Char) (i : Nat) :
    (respelled text)[i]? ≠ text[i]? ↔ EndEscapeAt text i := by
  rw [getElem?_respelled]
  by_cases h : EndEscapeAt text i
  · simp [h, h.1]
  · simp [h]

/-! ### The whole pattern -/

@[simp]
theorem respelledChar_eq_backslash_iff {escaped : Bool} {c : Char} :
    respelledChar escaped c = '\\' ↔ c = '\\' := by
  unfold respelledChar
  split_ifs with h
  · simp [h.2]
  · rfl

theorem beginsEscape_respelledChar (escaped : Bool) (c : Char) :
    beginsEscape escaped (respelledChar escaped c) = beginsEscape escaped c := by
  simp only [beginsEscape, respelledChar_eq_backslash_iff]

theorem respelledChar_respelledChar (escaped : Bool) (c : Char) :
    respelledChar escaped (respelledChar escaped c) = respelledChar escaped c := by
  by_cases h : escaped = true ∧ c = 'Z' <;> simp [respelledChar, h]

theorem utf8Size_respelledChar (escaped : Bool) (c : Char) :
    (respelledChar escaped c).utf8Size = c.utf8Size := by
  unfold respelledChar
  split_ifs with h
  · rw [h.2]
    rfl
  · rfl

theorem length_respelledFrom (escaped : Bool) (text : List Char) :
    (respelledFrom escaped text).length = text.length := by
  induction text generalizing escaped with
  | nil => rfl
  | cons c cs ih => exact congrArg (· + 1) (ih _)

theorem byteCount_respelledFrom (escaped : Bool) (text : List Char) :
    byteCount (respelledFrom escaped text) = byteCount text := by
  induction text generalizing escaped with
  | nil => rfl
  | cons c cs ih => rw [respelledFrom, byteCount, byteCount, utf8Size_respelledChar, ih]

/-- Respelling moves no backslash, so it finds the same escapes again. -/
theorem respelledFrom_respelledFrom (escaped : Bool) (text : List Char) :
    respelledFrom escaped (respelledFrom escaped text) = respelledFrom escaped text := by
  induction text generalizing escaped with
  | nil => rfl
  | cons c cs ih =>
      rw [respelledFrom, respelledFrom, respelledChar_respelledChar, beginsEscape_respelledChar, ih]

/--
**A pattern is respelled at its escapes for the end, and nowhere else.**  What is compiled
is the pattern between the anchor with its parenthesis and the closing parenthesis.  It has
as many characters and bytes as it is written with, and it differs exactly at a `Z` behind
an odd number of backslashes, where it has a `z`.  There is nothing left to respell in it.
-/
theorem wrapped_differs_at_end_escapes (text : List Char) :
    wrapped text = "^(?:".toList ++ respelled text ++ ")".toList ∧
      (respelled text).length = text.length ∧ byteCount (respelled text) = byteCount text ∧
      (∀ i, (respelled text)[i]? ≠ text[i]? ↔ EndEscapeAt text i) ∧
      (∀ i, (respelled text)[i]? = if EndEscapeAt text i then some 'z' else text[i]?) ∧
      respelled (respelled text) = respelled text := by
  refine ⟨rfl, ?_, ?_, getElem?_respelled_ne_iff text, getElem?_respelled text, ?_⟩
  · rw [respelled_eq, length_respelledFrom]
  · rw [respelled_eq, byteCount_respelledFrom]
  · rw [respelled_eq text, respelled_eq, respelledFrom_respelledFrom]

/-- An escaped backslash in front of the letter, an escape for the end, and one that is cut off. -/
example : respelled "\\\\Z\\\\\\Z\\".toList = "\\\\Z\\\\\\z\\".toList := by decide

end NameLint.NamePattern

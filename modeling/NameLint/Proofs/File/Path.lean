/-
Paths that are texts.

Most paths are: then the text is what is shown of them, and what a document holds.  A path is
no text if its bytes are not UTF-8, and it may come from the command line or from a directory,
but not from a document.
-/
import NameLint.File.Path

namespace NameLint.Path

/-- That the bytes of a path are those of a text. -/
def IsText (path : Path) : Prop :=
  ∃ text : String, path = text

@[simp]
theorem isText_ofText (text : String) : IsText text := ⟨text, rfl⟩

@[simp]
theorem text?_ofText (text : String) : (ofText text).text? = some text :=
  dif_pos text.isValidUTF8

@[simp]
theorem text?_eq_some_iff {path : Path} {text : String} : path.text? = some text ↔ path = text := by
  constructor
  · intro h
    obtain ⟨hvalid, hdecoded⟩ := Option.dite_none_right_eq_some.mp h
    cases hdecoded
    rfl
  · rintro rfl
    exact text?_ofText text

theorem isSome_text?_iff {path : Path} : path.text?.isSome = true ↔ path.IsText :=
  Option.isSome_iff_exists.trans (exists_congr fun _ => text?_eq_some_iff)

instance (path : Path) : Decidable path.IsText :=
  decidable_of_iff _ isSome_text?_iff

theorem text?_eq_none_iff {path : Path} : path.text? = none ↔ ¬ path.IsText := by
  rw [← isSome_text?_iff, Option.not_isSome_iff_eq_none]

/-- A text is shown as it is. -/
@[simp]
theorem shown_ofText (text : String) : (ofText text).shown = text := by
  rw [shown, text?_ofText]

theorem ofText_injective {a b : String} (h : ofText a = ofText b) : a = b := by
  rw [← shown_ofText a, h, shown_ofText]

@[simp]
theorem ofText_inj {a b : String} : ofText a = ofText b ↔ a = b :=
  ⟨ofText_injective, congrArg ofText⟩

end NameLint.Path

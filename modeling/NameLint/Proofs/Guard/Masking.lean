/-
Blanking as a mask, and blanking in pieces.

A blanked line has every character of the line at its own place in bytes, or spaces there
(`Masked.slice`), and it has no mark left that begins a comment (`not_infix_blanked`).

A line may be cut into pieces that are blanked one after the other, with the flag handed on.
When that is sound can be told by a reader who goes from character to character and never
looks ahead (`Stage`).  Such a reader has to know one thing more than the flag: whether the
character before may be the first one of a mark.  That is what gets lost at a cut, and so
the only trouble is a mark with one character on either side (`MarkAcross`).  The induction
over the line is `blanked_at_cut`; a comment up to the end of the line takes in whatever is
put behind it.
-/
import NameLint.Proofs.Guard.Slices

namespace NameLint.Guard

open Text (byteCount)

/-! ### Places of characters -/

theorem byteCount_of_masked {line code : List Char} (h : Masked line code) :
    byteCount code = byteCount line := by
  induction h with
  | nil => rfl
  | keep c _ ih => rw [byteCount, byteCount, ih]
  | cover c _ ih =>
      rw [byteCount_append, byteCount_spacesFor, ih]
      rfl

/-- The two parts of a line are masked by two parts of the code. -/
theorem Masked.exists_split {rest : List Char} :
    ∀ {front code : List Char}, Masked (front ++ rest) code →
      ∃ before after, code = before ++ after ∧ Masked front before ∧ Masked rest after := by
  intro front
  induction front with
  | nil => exact fun {code} h => ⟨[], code, rfl, .nil, h⟩
  | cons c front ih =>
      intro code h
      cases h with
      | keep _ hrest =>
          obtain ⟨before, after, rfl, hbefore, hafter⟩ := ih hrest
          exact ⟨c :: before, after, rfl, .keep c hbefore, hafter⟩
      | cover _ hrest =>
          obtain ⟨before, after, rfl, hbefore, hafter⟩ := ih hrest
          exact ⟨spacesFor [c] ++ before, after, (List.append_assoc ..).symm,
            .cover c hbefore, hafter⟩

/-- **At the place of a character stands that character, or as many spaces as it has bytes.** -/
theorem Masked.slice {front back code : List Char} {c : Char}
    (h : Masked (front ++ c :: back) code) :
    slice? (byteCount front) (byteCount (front ++ [c])) code = some [c] ∨
      slice? (byteCount front) (byteCount (front ++ [c])) code = some (spacesFor [c]) := by
  obtain ⟨before, after, rfl, hbefore, hafter⟩ := h.exists_split
  have hplace := byteCount_of_masked hbefore
  cases hafter with
  | @keep _ rest _ _ =>
      refine Or.inl (slice?_eq_some_iff.mpr ⟨before, rest, by simp, hplace, ?_⟩)
      rw [byteCount_append, byteCount_append, hplace]
  | @cover _ rest _ _ =>
      refine Or.inr (slice?_eq_some_iff.mpr ⟨before, rest, by simp, hplace, ?_⟩)
      rw [byteCount_append, byteCount_append, hplace, byteCount_spacesFor]

/-! ### No comment begins any more -/

theorem infix_of_infix_spaces {b : Char} {code : List Char} (cs : List Char)
    (h : ['/', b] <:+: spacesFor cs ++ code) : ['/', b] <:+: code := by
  unfold spacesFor at h
  generalize byteCount cs = n at h
  induction n with
  | zero => exact h
  | succ n ih =>
      rw [List.replicate_succ, List.cons_append, List.infix_cons_iff] at h
      rcases h with hstart | hbehind
      · have hspace := (List.cons_prefix_cons.mp hstart).1
        exact absurd hspace (by decide)
      · exact ih hbehind

/-- A blanked line has no mark in it that begins a comment. -/
theorem not_infix_blanked {b : Char} (hb : b = '/' ∨ b = '*') (inBlock : Bool)
    (line : List Char) : ¬ ['/', b] <:+: (blanked inBlock line).1 := by
  fun_induction blanked inBlock line with
  | case1 inBlock => simp
  | case2 cs ih => exact fun h => ih (infix_of_infix_spaces ['*', '/'] h)
  | case3 c cs _ ih => exact fun h => ih (infix_of_infix_spaces [c] h)
  | case4 cs ih => exact fun h => ih (infix_of_infix_spaces ['/', '*'] h)
  | case5 cs =>
      intro h
      rw [← List.append_nil (spacesFor _)] at h
      exact absurd (infix_of_infix_spaces _ h) (by simp)
  | case6 c cs hblock hline ih =>
      intro h
      rcases List.infix_cons_iff.mp h with hstart | hbehind
      · obtain ⟨hc, t, ht⟩ := List.cons_prefix_cons.mp hstart
        have hspace : ' ' ∉ [b] := by rcases hb with rfl | rfl <;> decide
        have hmask : Masked cs ([b] ++ t) := ht ▸ masked_blanked false cs
        obtain ⟨back, hcs, -⟩ := hmask.exists_front hspace
        rcases hb with rfl | rfl
        · exact hline back hc.symm hcs
        · exact hblock back hc.symm hcs
      · exact ih hbehind

/-- **Blanked once more, a line stays as it is.** -/
theorem blanked_blanked (inBlock : Bool) (line : List Char) :
    blanked false (blanked inBlock line).1 = ((blanked inBlock line).1, false) :=
  blanked_of_no_mark (not_infix_blanked (Or.inl rfl) inBlock line)
    (not_infix_blanked (Or.inr rfl) inBlock line)

/-! ### A reader who does not look ahead -/

/-- Where in a line a reader is who goes from character to character. -/
inductive Stage where
  /-- Outside of comments. -/
  | code
  /-- Outside of comments, right behind a slash that no mark before it has used up. -/
  | slash
  /-- In a comment that ends at its closing mark. -/
  | block
  /-- In such a comment, right behind a star that the opening mark has not used up. -/
  | star
  /-- In a comment that ends with the line. -/
  | line
deriving DecidableEq, Repr

namespace Stage

/-- Where a reader starts, with the flag for an open block comment. -/
def ofFlag (inBlock : Bool) : Stage :=
  if inBlock then block else code

@[simp]
theorem ofFlag_true : ofFlag true = block := rfl

@[simp]
theorem ofFlag_false : ofFlag false = code := rfl

/-- Where a reader is after one more character. -/
@[simp]
def next : Stage → Char → Stage
  | code, c => if c = '/' then slash else code
  | slash, c => if c = '/' then line else if c = '*' then block else code
  | block, c => if c = '*' then star else block
  | star, c => if c = '/' then code else if c = '*' then star else block
  | line, _ => line

/-- Whether a character is the second one of a mark. -/
@[simp]
def completes : Stage → Char → Bool
  | slash, c => c = '/' || c = '*'
  | star, c => c = '/'
  | _, _ => false

/-- Whether a block comment is open. -/
@[simp]
def inBlock : Stage → Bool
  | block | star => true
  | _ => false

/-- What becomes of the text that comes next, if the character before it counts for nothing. -/
def readOn : Stage → List Char → List Char × Bool
  | line, rest => (spacesFor rest, false)
  | stage, rest => blanked stage.inBlock rest

theorem readOn_of_ne_line {stage : Stage} (h : stage ≠ line) (rest : List Char) :
    stage.readOn rest = blanked stage.inBlock rest := by
  cases stage with
  | line => exact absurd rfl h
  | code | slash | block | star => rfl

/-- For a character that completes no mark the one before it counts for nothing. -/
theorem next_of_not_completes {stage : Stage} {c : Char} (hline : stage ≠ line)
    (h : ¬ stage.completes c = true) : stage.next c = (ofFlag stage.inBlock).next c := by
  cases stage with
  | line => exact absurd rfl hline
  | code | block => rfl
  | slash =>
      obtain ⟨hslash, hstar⟩ : c ≠ '/' ∧ c ≠ '*' := by simpa using h
      simp [hslash, hstar]
  | star =>
      have hslash : c ≠ '/' := by simpa using h
      simp [hslash]

end Stage

/-- Where a reader is behind a line. -/
def stageAfter (inBlock : Bool) (line : List Char) : Stage :=
  line.foldl Stage.next (.ofFlag inBlock)

@[simp]
theorem foldl_next_line (cs : List Char) : cs.foldl Stage.next .line = .line := by
  induction cs with
  | nil => rfl
  | cons c cs ih => exact ih

/-- One character begins or ends no comment. -/
theorem stageAfter_singleton (inBlock : Bool) (c : Char) :
    (stageAfter inBlock [c]).inBlock = inBlock ∧ stageAfter inBlock [c] ≠ .line := by
  cases inBlock with
  | false =>
      by_cases hc : c = '/' <;> simp [stageAfter, hc]
  | true =>
      by_cases hc : c = '*' <;> simp [stageAfter, hc]

/-! ### Marks across a cut -/

/-- The marks at which comments begin and end. -/
def marks : List (List Char) :=
  ["//".toList, "/*".toList, "*/".toList]

/-- That a mark is cut in two, one character at the end of a text and one in front of the next. -/
def MarkAcross (inBlock : Bool) (front rest : List Char) : Prop :=
  rest.head?.any (stageAfter inBlock front).completes = true

instance (inBlock : Bool) (front rest : List Char) : Decidable (MarkAcross inBlock front rest) :=
  inferInstanceAs (Decidable (_ = true))

theorem completes_next {stage : Stage} {a b : Char} (h : (stage.next a).completes b = true) :
    [a, b] ∈ marks := by
  cases stage with
  | line => cases h
  | code | slash | block | star =>
      simp only [Stage.next] at h
      split_ifs at h <;> simp_all [marks]

/-- A mark across a cut is a mark of two characters in the text. -/
theorem MarkAcross.exists_mark {inBlock : Bool} {front rest : List Char}
    (h : MarkAcross inBlock front rest) :
    ∃ a b, front.getLast? = some a ∧ rest.head? = some b ∧ [a, b] ∈ marks := by
  cases rest with
  | nil => cases h
  | cons b rest =>
      rw [MarkAcross, List.head?_cons, Option.any_some] at h
      rcases List.eq_nil_or_concat' front with rfl | ⟨front, a, rfl⟩
      · cases inBlock <;> cases h
      · rw [stageAfter, List.foldl_concat] at h
        exact ⟨a, b, List.getLast?_concat .., rfl, completes_next h⟩

theorem markAcross_code_iff {c : Char} {cs : List Char} :
    MarkAcross false [c] cs ↔ c = '/' ∧ ((∃ ds, cs = '*' :: ds) ∨ ∃ ds, cs = '/' :: ds) := by
  cases cs with
  | nil => simp [MarkAcross]
  | cons d cs =>
      by_cases hc : c = '/' <;> simp [MarkAcross, stageAfter, hc, or_comm]

theorem markAcross_block_iff {c : Char} {cs : List Char} :
    MarkAcross true [c] cs ↔ c = '*' ∧ ∃ ds, cs = '/' :: ds := by
  cases cs with
  | nil => simp [MarkAcross]
  | cons d cs =>
      by_cases hc : c = '*' <;> simp [MarkAcross, stageAfter, hc]

/-! ### Cuts -/

@[simp]
theorem prepend_prepend (front next : List Char) (line : List Char × Bool) :
    prepend front (prepend next line) = prepend (front ++ next) line := by
  simp [prepend]

theorem blanked_block_cons (c : Char) (cs : List Char) (h : ∀ ds, c = '*' → cs ≠ '/' :: ds) :
    blanked true (c :: cs) = prepend (spacesFor [c]) (blanked true cs) := by
  rw [blanked]
  exact fun ds hc hcs => h ds hc hcs

/-- A character that begins no mark is blanked by itself. -/
theorem blanked_cons {inBlock : Bool} {c : Char} {cs : List Char}
    (h : ¬ MarkAcross inBlock [c] cs) :
    blanked inBlock (c :: cs) = prepend (blanked inBlock [c]).1 (blanked inBlock cs) := by
  cases inBlock with
  | false =>
      have hsingle : blanked false [c] = ([c], false) := blanked_code_cons c [] nofun nofun
      rw [hsingle, blanked_code_cons c cs]
      · exact fun ds hc hcs => h (markAcross_code_iff.mpr ⟨hc, Or.inl ⟨ds, hcs⟩⟩)
      · exact fun ds hc hcs => h (markAcross_code_iff.mpr ⟨hc, Or.inr ⟨ds, hcs⟩⟩)
  | true =>
      have hsingle : (blanked true [c]).1 = spacesFor [c] := by
        rw [blanked_block_cons c [] nofun]
        exact List.append_nil _
      rw [hsingle, blanked_block_cons c cs]
      exact fun ds hc hcs => h (markAcross_block_iff.mpr ⟨hc, ds, hcs⟩)

/-- The step over a character that begins no mark in the line; it may begin one across the cut. -/
theorem blanked_at_cut_cons {inBlock : Bool} {c : Char} {cs rest : List Char}
    (hfirst : ¬ MarkAcross inBlock [c] cs) (hcut : ¬ MarkAcross inBlock (c :: cs) rest)
    (ih : ¬ MarkAcross inBlock cs rest → blanked inBlock (cs ++ rest)
      = prepend (blanked inBlock cs).1 ((stageAfter inBlock cs).readOn rest)) :
    blanked inBlock (c :: cs ++ rest)
      = prepend (blanked inBlock (c :: cs)).1 ((stageAfter inBlock (c :: cs)).readOn rest) := by
  obtain ⟨hflag, hline⟩ := stageAfter_singleton inBlock c
  cases cs with
  | nil =>
      rw [List.singleton_append, blanked_cons hcut, Stage.readOn_of_ne_line hline, hflag]
  | cons d cs =>
      have hnext := Stage.next_of_not_completes hline hfirst
      rw [hflag] at hnext
      have hstage : stageAfter inBlock (c :: d :: cs) = stageAfter inBlock (d :: cs) :=
        congrArg (cs.foldl Stage.next) hnext
      have hwhole : ¬ MarkAcross inBlock [c] (d :: cs ++ rest) := hfirst
      rw [MarkAcross, hstage] at hcut
      rw [List.cons_append, blanked_cons hwhole, ih hcut, prepend_prepend, hstage,
        blanked_cons hfirst]
      rfl

/-- **A line is blanked in pieces if no mark is cut in two.** -/
theorem blanked_at_cut {inBlock : Bool} {front rest : List Char}
    (hcut : ¬ MarkAcross inBlock front rest) :
    blanked inBlock (front ++ rest)
      = prepend (blanked inBlock front).1 ((stageAfter inBlock front).readOn rest) := by
  induction inBlock, front using blanked.induct with
  | case1 inBlock => cases inBlock <;> rfl
  | case2 cs ih =>
      have hstep := congrArg (prepend [' ', ' ']) (ih hcut)
      rwa [prepend_prepend] at hstep
  | case3 c cs h ih =>
      have hfirst : ¬ MarkAcross true [c] cs := by
        rw [markAcross_block_iff]
        exact fun ⟨hc, ds, hcs⟩ => h ds hc hcs
      exact blanked_at_cut_cons hfirst hcut ih
  | case4 cs ih =>
      have hstep := congrArg (prepend [' ', ' ']) (ih hcut)
      rwa [prepend_prepend] at hstep
  | case5 cs =>
      have hstage : stageAfter false ('/' :: '/' :: cs) = .line := foldl_next_line cs
      rw [hstage]
      exact congrArg (·, false) (spacesFor_append ('/' :: '/' :: cs) rest)
  | case6 c cs hblock hline ih =>
      have hfirst : ¬ MarkAcross false [c] cs := by
        rw [markAcross_code_iff]
        rintro ⟨hc, ⟨ds, hcs⟩ | ⟨ds, hcs⟩⟩
        · exact hblock ds hc hcs
        · exact hline ds hc hcs
      exact blanked_at_cut_cons hfirst hcut ih

/-- The flag behind a line says where the reader is. -/
theorem inBlock_stageAfter (inBlock : Bool) (line : List Char) :
    (blanked inBlock line).2 = (stageAfter inBlock line).inBlock := by
  have hcut : ¬ MarkAcross inBlock line [] := by simp [MarkAcross]
  have hend := congrArg Prod.snd (blanked_at_cut hcut)
  rw [List.append_nil] at hend
  rw [hend]
  cases stageAfter inBlock line <;> rfl

/-! ### The whole of it -/

/--
**Blanking is a faithful mask.**  Done on the bytes of a line it gives the bytes of a text,
as many as before.  Every character stands at its own place or gives way to as many spaces
as it has bytes.  No mark is left that begins a comment, and so nothing changes when the
line is blanked once more.  What is put behind the line is blanked by itself, with the flag
that the line leaves, unless a mark is cut in two there or the line has a comment that runs
up to its end; and such a comment takes it in.
-/
theorem blanked_faithful (inBlock : Bool) (line : List Char) :
    let code := (blanked inBlock line).1
    let flag := (blanked inBlock line).2
    let bytes := blankedBytes inBlock (encoded line)
    (decoded? bytes.1 = some code ∧ bytes.2 = flag ∧ bytes.1.length = (encoded line).length) ∧
      (∀ front c back, line = front ++ c :: back →
        slice? (byteCount front) (byteCount (front ++ [c])) code = some [c] ∨
          slice? (byteCount front) (byteCount (front ++ [c])) code = some (spacesFor [c])) ∧
      (¬ "//".toList <:+: code ∧ ¬ "/*".toList <:+: code ∧ blanked false code = (code, false)) ∧
      ∀ rest,
        (stageAfter inBlock line = .line →
          blanked inBlock (line ++ rest) = (code ++ spacesFor rest, false)) ∧
        (stageAfter inBlock line ≠ .line → ¬ MarkAcross inBlock line rest →
          blanked inBlock (line ++ rest)
            = (code ++ (blanked flag rest).1, (blanked flag rest).2)) ∧
        (MarkAcross inBlock line rest →
          ∃ a b, line.getLast? = some a ∧ rest.head? = some b ∧ [a, b] ∈ marks) := by
  intro code flag bytes
  have hbytes : bytes = (encoded code, flag) := blankedBytes_encoded inBlock line
  have hmask : Masked line code := masked_blanked inBlock line
  have hflag : flag = (stageAfter inBlock line).inBlock := inBlock_stageAfter inBlock line
  refine ⟨⟨?_, ?_, ?_⟩, ?_, ⟨?_, ?_, blanked_blanked inBlock line⟩, fun rest => ⟨?_, ?_, ?_⟩⟩
  · rw [hbytes, decoded?_encoded]
  · rw [hbytes]
  · rw [hbytes, length_encoded, length_encoded, byteCount_of_masked hmask]
  · rintro front c back rfl
    exact hmask.slice
  · exact not_infix_blanked (Or.inl rfl) inBlock line
  · exact not_infix_blanked (Or.inr rfl) inBlock line
  · intro hline
    have hcut : ¬ MarkAcross inBlock line rest := by
      rw [MarkAcross, hline]
      cases rest <;> exact Bool.false_ne_true
    rw [blanked_at_cut hcut, hline]
    rfl
  · intro hline hcut
    rw [blanked_at_cut hcut, Stage.readOn_of_ne_line hline, hflag]
    rfl
  · exact MarkAcross.exists_mark

/--
A line that starts in a comment and ends in a slash, which begins no mark with the letter
behind it but one with a star; and a line that ends in a comment.
-/
theorem blanked_faithful_of_slash_at_cut :
    let line := "é */ ü/".toList
    let noted := "a // é".toList
    (line = "é */ ".toList ++ 'ü' :: ['/'] ∧
      (slice? 6 8 (blanked true line).1 = some ['ü'] ∨
        slice? 6 8 (blanked true line).1 = some (spacesFor ['ü']))) ∧
      (stageAfter true line ≠ .line ∧ ¬ MarkAcross true line "b /*".toList ∧
        blanked true (line ++ "b /*".toList) = ("      ü/b   ".toList, true)) ∧
      (stageAfter false noted = .line ∧
        blanked false (noted ++ "*/".toList) = ("a        ".toList, false)) ∧
      MarkAcross true line "*".toList ∧
        ∃ a b, line.getLast? = some a ∧ "*".toList.head? = some b ∧ [a, b] ∈ marks := by
  intro line noted
  obtain ⟨-, hplaces, -, hpieces⟩ := blanked_faithful true line
  obtain ⟨-, -, -, hnoted⟩ := blanked_faithful false noted
  have hsplit : line = "é */ ".toList ++ 'ü' :: ['/'] := by decide +kernel
  have hopen : stageAfter true line ≠ .line := by decide +kernel
  have hwhole : ¬ MarkAcross true line "b /*".toList := by decide +kernel
  have hended : stageAfter false noted = .line := by decide +kernel
  have hacross : MarkAcross true line "*".toList := by decide +kernel
  have hplace := hplaces _ _ _ hsplit
  have hfirst : byteCount "é */ ".toList = 6 := by decide +kernel
  have hlast : byteCount ("é */ ".toList ++ ['ü']) = 8 := by decide +kernel
  rw [hfirst, hlast] at hplace
  refine ⟨⟨hsplit, hplace⟩, ⟨hopen, hwhole, ?_⟩, ⟨hended, ?_⟩, hacross,
    (hpieces _).2.2 hacross⟩
  · exact ((hpieces _).2.1 hopen hwhole).trans (by decide +kernel)
  · exact ((hnoted _).1 hended).trans (by decide +kernel)

end NameLint.Guard

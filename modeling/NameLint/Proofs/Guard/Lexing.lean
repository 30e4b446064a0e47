/-
The scanner of include guards agrees with a lexer of the whole text.

`scan` looks at one line after the other and hands one flag on between them: whether a
block comment is open.  What a reader of the header has in mind is something else, a text
in which comments run where they run and lines come second.  Here that reading is written
down, `lexed` for the comments and `verdictOf` for the directives, and the two are shown
to agree.

The flag is enough because a line comment never outlives its line, so at the start of a
line the lexer is in code or in a block comment.  `lexed_append` is the step: over a text
without newlines the lexer does what `blanked` does, and at the newline it is in the place
that the flag says.  Everything else follows line by line.
-/
import NameLint.Guard.Scan
import NameLint.Proofs.Text.Words

namespace NameLint.Guard

/-! ### A lexer of the whole text -/

/-- Where in a header a lexer is. -/
inductive Place where
  /-- Outside of comments. -/
  | code
  /-- In a comment that ends at its closing mark. -/
  | block
  /-- In a comment that ends with the line. -/
  | line
deriving DecidableEq, Repr

/-- What stands for a character of a comment: lines stay lines, all else is blank. -/
def blankOf (c : Char) : List Char :=
  if c = '\n' then ['\n'] else spacesFor [c]

/-- The text with its comments blanked, in one pass from the given place on. -/
def lexed : Place → List Char → List Char
  | _, [] => []
  | .code, '/' :: '*' :: cs => ' ' :: ' ' :: lexed .block cs
  | .code, '/' :: '/' :: cs => ' ' :: ' ' :: lexed .line cs
  | .code, c :: cs => c :: lexed .code cs
  | .block, '*' :: '/' :: cs => ' ' :: ' ' :: lexed .code cs
  | .block, c :: cs => blankOf c ++ lexed .block cs
  | .line, c :: cs => blankOf c ++ lexed (if c = '\n' then .code else .line) cs

/-! ### What the directives say -/

/-- What a header holds; lines are counted from one. -/
inductive Verdict where
  /-- No guard. -/
  | missing
  /-- A guard without exactly one word. -/
  | invalid (line : Nat)
  /-- A guard with its word. -/
  | found (token : List Char) (line : Nat)
deriving DecidableEq, Repr

/-- What is found without the column at which it is found. -/
def Scan.verdict : Scan → Verdict
  | missing => .missing
  | invalid line _ => .invalid line
  | found token line _ => .found token line

/-- The text after the sign of a directive, if that is the first thing on the line. -/
def directive? (line : List Char) : Option (List Char) :=
  match line.dropWhile Text.isBlank with
  | '#' :: rest => some rest
  | _ => none

/-- The pieces of a text between blanks. -/
def tokens (text : List Char) : List (List Char) :=
  (text.splitOnP Text.isBlank).filter fun w => !w.isEmpty

/-- What a directive says; `rest` is what follows its sign. -/
def directiveVerdict (number : Nat) (rest : List Char) : Verdict :=
  match rest.dropWhile Text.isBlank with
  | 'i' :: 'f' :: 'n' :: 'd' :: 'e' :: 'f' :: args =>
    if args.head?.any continuesWord then .missing
    else
      match tokens args with
      | [token] => .found token number
      | _ => .invalid number
  | _ => .missing

/-- The place at the start of a line. -/
def Place.ofFlag (inBlock : Bool) : Place :=
  if inBlock then .block else .code

/-- A text that starts with the end of a line, or with the end of the text. -/
def AtLineEnd (tail : List Char) : Prop :=
  tail = [] ∨ ∃ rest, tail = '\n' :: rest

@[simp]
theorem byteCount_append (cs ds : List Char) :
    Text.byteCount (cs ++ ds) = Text.byteCount cs + Text.byteCount ds := by
  induction cs with
  | nil => simp [Text.byteCount]
  | cons c cs ih => simp [Text.byteCount, ih, Nat.add_assoc]

@[simp]
theorem spacesFor_append (cs ds : List Char) :
    spacesFor (cs ++ ds) = spacesFor cs ++ spacesFor ds := by
  unfold spacesFor
  rw [byteCount_append, List.replicate_append_replicate]

/-- The lexer leaves a line comment with its line. -/
theorem lexed_line_append {tail : List Char} (htail : AtLineEnd tail) :
    ∀ cs : List Char, '\n' ∉ cs → lexed .line (cs ++ tail) = spacesFor cs ++ lexed .code tail := by
  intro cs
  induction cs with
  | nil =>
      intro _
      rcases htail with rfl | ⟨rest, rfl⟩
      · rfl
      · simp [lexed, blankOf, spacesFor, Text.byteCount]
  | cons c cs ih =>
      intro hcs
      have hc : c ≠ '\n' := fun h => hcs (by simp [h])
      have hrest : '\n' ∉ cs := fun h => hcs (by simp [h])
      rw [List.cons_append, lexed, if_neg hc, ih hrest, blankOf, if_neg hc, ← List.append_assoc,
        ← spacesFor_append]
      rfl

theorem lexed_block_cons (c : Char) (cs : List Char) (h : ∀ ds, c = '*' → cs ≠ '/' :: ds) :
    lexed .block (c :: cs) = blankOf c ++ lexed .block cs := by
  rw [lexed]
  exact fun ds hc hcs => h ds hc hcs

theorem lexed_code_cons (c : Char) (cs : List Char) (hblock : ∀ ds, c = '/' → cs ≠ '*' :: ds)
    (hline : ∀ ds, c = '/' → cs ≠ '/' :: ds) : lexed .code (c :: cs) = c :: lexed .code cs := by
  rw [lexed]
  · exact fun ds hc hcs => hblock ds hc hcs
  · exact fun ds hc hcs => hline ds hc hcs

/-- The end of a line completes no mark that the line leaves half. -/
theorem append_ne_cons {tail : List Char} (htail : AtLineEnd tail) {cs : List Char} {c : Char}
    (hc : c ≠ '\n') (h : ∀ ds, cs ≠ c :: ds) : ∀ ds, cs ++ tail ≠ c :: ds := by
  intro ds
  cases cs with
  | nil =>
      rcases htail with rfl | ⟨rest, rfl⟩
      · simp
      · simpa using fun heq => absurd heq.symm hc
  | cons d cs =>
      intro heq
      obtain ⟨rfl, -⟩ := List.cons.inj heq
      exact h cs rfl

/-- Over a line the lexer does what `blanked` does. -/
theorem lexed_append {tail : List Char} (htail : AtLineEnd tail) (inBlock : Bool)
    (line : List Char) (hline : '\n' ∉ line) :
    lexed (.ofFlag inBlock) (line ++ tail)
      = (blanked inBlock line).1 ++ lexed (.ofFlag (blanked inBlock line).2) tail := by
  fun_induction blanked inBlock line with
  | case1 inBlock => rfl
  | case2 cs ih =>
      have hcs : '\n' ∉ cs := fun h => hline (by simp [h])
      exact congrArg (' ' :: ' ' :: ·) (ih hcs)
  | case3 c cs h ih =>
      have hc : c ≠ '\n' := fun h => hline (by simp [h])
      have hcs : '\n' ∉ cs := fun h => hline (by simp [h])
      have hstep := lexed_block_cons c (cs ++ tail) fun ds hstar =>
        append_ne_cons htail (by decide) (fun ds hcs => h ds hstar hcs) ds
      show lexed .block (c :: (cs ++ tail)) = _
      rw [hstep, blankOf, if_neg hc]
      exact (congrArg (spacesFor [c] ++ ·) (ih hcs)).trans (List.append_assoc ..).symm
  | case4 cs ih =>
      have hcs : '\n' ∉ cs := fun h => hline (by simp [h])
      exact congrArg (' ' :: ' ' :: ·) (ih hcs)
  | case5 cs =>
      have hcs : '\n' ∉ cs := fun h => hline (by simp [h])
      have hspaces : spacesFor ('/' :: '/' :: cs) = ' ' :: ' ' :: spacesFor cs :=
        spacesFor_append ['/', '/'] cs
      rw [hspaces]
      exact congrArg (' ' :: ' ' :: ·) (lexed_line_append htail cs hcs)
  | case6 c cs hblock hslash ih =>
      have hcs : '\n' ∉ cs := fun h => hline (by simp [h])
      have hstep := lexed_code_cons c (cs ++ tail)
        (fun ds hc => append_ne_cons htail (by decide) (fun ds hcs => hblock ds hc hcs) ds)
        (fun ds hc => append_ne_cons htail (by decide) (fun ds hcs => hslash ds hc hcs) ds)
      show lexed .code (c :: (cs ++ tail)) = _
      rw [hstep]
      exact congrArg (c :: ·) (ih hcs)

/-! ### All lines -/

/-- The lines with comments blanked, one after the other. -/
def blankedLines : Bool → List (List Char) → List (List Char)
  | _, [] => []
  | inBlock, line :: lines =>
    (blanked inBlock line).1 :: blankedLines (blanked inBlock line).2 lines

/-- Outside of line comments a newline leaves the lexer where it is. -/
theorem lexed_newline (inBlock : Bool) (cs : List Char) :
    lexed (.ofFlag inBlock) ('\n' :: cs) = '\n' :: lexed (.ofFlag inBlock) cs := by
  cases inBlock <;> simp [Place.ofFlag, lexed, blankOf]

/-- Blanking the lines gives the lines of the text that the lexer gives. -/
theorem lexed_intercalate :
    ∀ (lines : List (List Char)) (inBlock : Bool), (∀ line ∈ lines, '\n' ∉ line) →
      lexed (.ofFlag inBlock) (['\n'].intercalate lines)
        = ['\n'].intercalate (blankedLines inBlock lines) := by
  intro lines
  induction lines with
  | nil =>
      intro inBlock _
      cases inBlock <;> rfl
  | cons line rest ih =>
      intro inBlock hlines
      have hline : '\n' ∉ line := hlines line (by simp)
      have hrest : ∀ line ∈ rest, '\n' ∉ line := fun l hl => hlines l (by simp [hl])
      cases rest with
      | nil =>
          have h := lexed_append (Or.inl rfl) inBlock line hline
          cases hb : (blanked inBlock line).2 <;> simpa [blankedLines, hb, lexed] using h
      | cons next rest =>
          have hend : AtLineEnd ('\n' :: ['\n'].intercalate (next :: rest)) := Or.inr ⟨_, rfl⟩
          have hstep := lexed_append hend inBlock line hline
          rw [lexed_newline, ih _ hrest] at hstep
          have hjoin : ['\n'].intercalate (blankedLines inBlock (line :: next :: rest))
              = (blanked inBlock line).1 ++ ['\n']
                ++ ['\n'].intercalate (blankedLines (blanked inBlock line).2 (next :: rest)) :=
            List.intercalate_cons_cons
          rw [List.intercalate_cons_cons, List.append_assoc, List.singleton_append, hstep, hjoin,
            List.append_assoc, List.singleton_append]

/-- A blanked line has no newlines but those of the line. -/
theorem newline_not_mem_blanked (inBlock : Bool) (line : List Char) (h : '\n' ∉ line) :
    '\n' ∉ (blanked inBlock line).1 := by
  fun_induction blanked inBlock line with
  | case1 inBlock => simp
  | case2 cs ih => simp_all [prepend]
  | case3 c cs _ ih => simp_all [prepend, spacesFor]
  | case4 cs ih => simp_all [prepend]
  | case5 cs => simp [spacesFor]
  | case6 c cs _ _ ih => simp_all [prepend]

/-- The lines of the lexed text are the blanked lines. -/
theorem splitOn_lexed {lines : List (List Char)} (hne : lines ≠ [])
    (hlines : ∀ line ∈ lines, '\n' ∉ line) :
    (lexed .code (['\n'].intercalate lines)).splitOn '\n' = blankedLines false lines := by
  have hnewline : ∀ (ls : List (List Char)) (inBlock : Bool), (∀ line ∈ ls, '\n' ∉ line) →
      ∀ code ∈ blankedLines inBlock ls, '\n' ∉ code := by
    intro ls
    induction ls with
    | nil => intro _ _ code hcode; simp [blankedLines] at hcode
    | cons line rest ih =>
        intro inBlock hls code hcode
        rcases List.mem_cons.mp hcode with rfl | hmem
        · exact newline_not_mem_blanked inBlock line (hls line (by simp))
        · exact ih _ (fun l hl => hls l (by simp [hl])) code hmem
  have hblanked : blankedLines false lines ≠ [] := by
    cases lines with
    | nil => exact absurd rfl hne
    | cons line rest => simp [blankedLines]
  have hlexed := lexed_intercalate lines false hlines
  rw [show lexed .code (['\n'].intercalate lines) = _ from hlexed]
  exact List.splitOn_intercalate '\n' (hnewline lines false hlines) hblanked

/-! ### Directives -/

@[simp]
theorem afterKeyword?_cons (args : List Char) :
    afterKeyword? ('i' :: 'f' :: 'n' :: 'd' :: 'e' :: 'f' :: args) = some args := by
  rfl

theorem afterKeyword?_eq_some {text args : List Char} (h : afterKeyword? text = some args) :
    text = 'i' :: 'f' :: 'n' :: 'd' :: 'e' :: 'f' :: args := by
  unfold afterKeyword? at h
  split at h
  · rename_i hprefix
    obtain ⟨tail, rfl⟩ := List.isPrefixOf_iff_prefix.mp hprefix
    have htail : tail = args := by simpa using h
    rw [htail]
    rfl
  · simp at h

/-- What is found at a directive, without the column. -/
@[simp]
theorem directiveScan_verdict (number : Nat) (line code rest : List Char) :
    (directiveScan number line code ('#' :: rest)).verdict = directiveVerdict number rest := by
  unfold directiveScan directiveVerdict
  rw [List.tail_cons]
  cases hkey : afterKeyword? (Text.trimStart rest) with
  | none =>
      show Verdict.missing = _
      split
      · rename_i args hargs
        rw [Text.trimStart, hargs, afterKeyword?_cons] at hkey
        cases hkey
      · rfl
  | some args =>
      have hargs : rest.dropWhile Text.isBlank = 'i' :: 'f' :: 'n' :: 'd' :: 'e' :: 'f' :: args :=
        afterKeyword?_eq_some hkey
      have hwords : Text.words (Text.trimStart args) = tokens args := by
        rw [Text.words_trimStart, Text.words_eq_splitOnP, tokens]
      simp only [hargs, hwords]
      by_cases hlonger : args.head?.any continuesWord = true
      · rw [if_pos hlonger, if_pos hlonger]
        rfl
      · rw [if_neg hlonger, if_neg hlonger]
        rcases tokens args with _ | ⟨token, _ | ⟨next, more⟩⟩ <;> rfl

/-- What is found on a line, without the column. -/
theorem lineScan?_verdict (number : Nat) (line code : List Char) :
    (lineScan? number line code).map Scan.verdict
      = (directive? code).map (directiveVerdict number) := by
  unfold lineScan? directive?
  rw [Text.trimStart]
  split
  · rename_i rest hrest
    simp [hrest]
  · rename_i hother
    rw [if_neg]
    · rfl
    · intro hhead
      obtain ⟨rest, hrest⟩ := List.head?_eq_some_iff.mp hhead
      exact hother rest hrest

/-! ### The scanner -/

theorem scanFrom_cons (inBlock : Bool) (number : Nat) (raw : List Char) (rest : List (List Char)) :
    scanFrom inBlock number (raw :: rest)
      = (lineScan? number (if number = 1 then withoutMark raw else raw)
          (blanked inBlock (if number = 1 then withoutMark raw else raw)).1).getD
        (scanFrom (blanked inBlock (if number = 1 then withoutMark raw else raw)).2
          (number + 1) rest) := by
  rw [scanFrom]
  obtain ⟨code, inBlock⟩ := blanked inBlock (if number = 1 then withoutMark raw else raw)
  cases hscan : lineScan? number (if number = 1 then withoutMark raw else raw) code <;>
    simp [hscan]

theorem withoutMark_append {tail : List Char} (htail : AtLineEnd tail) (line : List Char) :
    withoutMark (line ++ tail) = withoutMark line ++ tail := by
  cases line with
  | nil => rcases htail with rfl | ⟨rest, rfl⟩ <;> rfl
  | cons c cs =>
      by_cases hc : c = '\uFEFF'
      · rw [hc]
        rfl
      · simp [withoutMark, hc]

/-- The byte order mark of a text is that of its first line. -/
theorem withoutMark_intercalate (line : List Char) (rest : List (List Char)) :
    withoutMark (['\n'].intercalate (line :: rest))
      = ['\n'].intercalate (withoutMark line :: rest) := by
  cases rest with
  | nil => rw [List.intercalate_singleton, List.intercalate_singleton]
  | cons next rest =>
      rw [List.intercalate_cons_cons, List.intercalate_cons_cons, List.append_assoc,
        List.append_assoc]
      exact withoutMark_append (Or.inr ⟨_, rfl⟩) line

theorem newline_not_mem_withoutMark {line : List Char} (h : '\n' ∉ line) :
    '\n' ∉ withoutMark line := by
  unfold withoutMark
  split
  · exact fun hmem => h (List.mem_cons_of_mem _ hmem)
  · exact h

end NameLint.Guard

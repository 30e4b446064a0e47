/-
The guard that opens a header.

A header may have lines in front of its guard: empty ones, comments, code.  The scanner
passes over them as long as they hold no directive and leave no comment open (`Quiet`),
and it counts them.  So it comes to the line of the guard with nothing to remember but the
number of that line, and reads from it the token that was written there.  A lexer of the
whole text would call the same lines quiet (`quiet_iff_lexed`).

`scan_opening` is what the writer of a guard can rely on: the token is found, at the line
behind the quiet ones and at the column behind the keyword.  The only tokens that are read
otherwise than written are those with a comment in them (`IsToken`).
-/
import NameLint.Proofs.Guard.Places
import NameLint.Proofs.Unicode.FirstMember

namespace NameLint.Guard

open TypeSpelling (IsWord words_word_append)
open Text (byteCount trimStart words isBlank)

/-! ### Lines in front of a guard -/

/-- Whether a block comment is open after some lines; `inBlock` if one is before. -/
def openAfter (inBlock : Bool) (lines : List (List Char)) : Bool :=
  lines.foldl (fun inBlock line => (blanked inBlock line).2) inBlock

/-- Lines in which a header does not say anything about its guard yet. -/
structure Quiet (lines : List (List Char)) : Prop where
  /-- There is no directive outside of comments. -/
  noDirective : ∀ code ∈ blankedLines false lines, directive? code = none
  /-- No comment goes on behind the lines. -/
  closed : openAfter false lines = false

/-- Over lines that another text follows the lexer does what `blanked` does line by line. -/
theorem lexed_intercalate_newline (rest : List Char) :
    ∀ (lines : List (List Char)) (inBlock : Bool), lines ≠ [] → (∀ line ∈ lines, '\n' ∉ line) →
      lexed (.ofFlag inBlock) (['\n'].intercalate lines ++ '\n' :: rest)
        = ['\n'].intercalate (blankedLines inBlock lines)
          ++ '\n' :: lexed (.ofFlag (openAfter inBlock lines)) rest := by
  intro lines
  induction lines with
  | nil => exact fun _ hne => absurd rfl hne
  | cons line lines ih =>
      intro inBlock _ hlines
      obtain ⟨hline, hothers⟩ := List.forall_mem_cons.mp hlines
      cases lines with
      | nil =>
          rw [List.intercalate_singleton, lexed_append (Or.inr ⟨rest, rfl⟩) inBlock line hline,
            lexed_newline]
          exact congrArg (· ++ _) List.intercalate_singleton.symm
      | cons next lines =>
          have hjoin : ['\n'].intercalate (blankedLines inBlock (line :: next :: lines))
              = (blanked inBlock line).1 ++ ['\n']
                ++ ['\n'].intercalate (blankedLines (blanked inBlock line).2 (next :: lines)) :=
            List.intercalate_cons_cons
          rw [List.intercalate_cons_cons, hjoin]
          simp only [List.append_assoc, List.cons_append, List.nil_append]
          rw [lexed_append (Or.inr ⟨_, rfl⟩) inBlock line hline, lexed_newline,
            ih _ (List.cons_ne_nil _ _) hothers]
          rfl

/-- What it is for lines to be quiet can be seen from the text they make, read by a lexer that
knows nothing of lines: no line of it has a directive, and what follows is read as code. -/
theorem quiet_iff_lexed {lines : List (List Char)} (hne : lines ≠ [])
    (hlines : ∀ line ∈ lines, '\n' ∉ line) :
    let text := ['\n'].intercalate lines
    Quiet lines ↔ (∀ code ∈ (lexed .code text).splitOn '\n', directive? code = none) ∧
      ∀ rest, lexed .code (text ++ '\n' :: rest)
        = lexed .code text ++ '\n' :: lexed .code rest := by
  intro text
  have hsplit : (lexed .code text).splitOn '\n' = blankedLines false lines :=
    splitOn_lexed hne hlines
  have htext : lexed .code text = ['\n'].intercalate (blankedLines false lines) :=
    lexed_intercalate lines false hlines
  have hfollow : ∀ rest, lexed .code (text ++ '\n' :: rest)
      = lexed .code text ++ '\n' :: lexed (.ofFlag (openAfter false lines)) rest := by
    intro rest
    rw [htext]
    exact lexed_intercalate_newline rest lines false hne hlines
  rw [hsplit]
  constructor
  · rintro ⟨hdirective, hclosed⟩
    refine ⟨hdirective, fun rest => ?_⟩
    rw [hfollow, hclosed]
    rfl
  · rintro ⟨hdirective, hcode⟩
    refine ⟨hdirective, ?_⟩
    -- a letter tells code from a comment
    have hletter := List.append_cancel_left ((hfollow ['a']).symm.trans (hcode ['a']))
    cases hopen : openAfter false lines with
    | false => rfl
    | true =>
        rw [hopen] at hletter
        exact absurd hletter (by decide)

theorem lineScan?_of_no_directive {code : List Char} (h : directive? code = none) (number : Nat)
    (line : List Char) : lineScan? number line code = none := by
  have hverdict := lineScan?_verdict number line code
  rw [h, Option.map_none] at hverdict
  exact Option.map_eq_none_iff.mp hverdict

/-- The scanner passes over lines without directives; this is said of lines behind the first. -/
theorem scanFrom_append :
    ∀ (preamble rest : List (List Char)) (inBlock : Bool) (number : Nat), 1 < number →
      (∀ code ∈ blankedLines inBlock preamble, directive? code = none) →
      scanFrom inBlock number (preamble ++ rest)
        = scanFrom (openAfter inBlock preamble) (number + preamble.length) rest := by
  intro preamble rest
  induction preamble with
  | nil => intro inBlock number _ _; rfl
  | cons line preamble ih =>
      intro inBlock number hnumber hquiet
      have hline := hquiet _ List.mem_cons_self
      have hrest := ih (blanked inBlock line).2 (number + 1) (by omega) fun code hcode =>
        hquiet code (List.mem_cons_of_mem _ hcode)
      rw [List.cons_append, scanFrom_cons, if_neg (by omega), lineScan?_of_no_directive hline,
        Option.getD_none, hrest, List.length_cons]
      congr 1
      omega

/-! ### The line of a guard -/

/-- The line that opens a header with a guard: `#ifndef` and the token, one space between them. -/
def opening (token : List Char) : List Char :=
  '#' :: (keyword ++ ' ' :: token)

theorem keyword_eq : keyword = ['i', 'f', 'n', 'd', 'e', 'f'] :=
  String.toList_ofList

theorem opening_eq_append (token : List Char) :
    opening token = ['#', 'i', 'f', 'n', 'd', 'e', 'f', ' '] ++ token := by
  rw [opening, keyword_eq]
  rfl

/-- A text that is one token where it stands: it has no blanks and starts no comment. -/
structure IsToken (token : List Char) : Prop where
  /-- It is not empty and has no blanks. -/
  word : IsWord token
  /-- No comment up to the end of the line starts in it. -/
  noLineMark : ¬ ['/', '/'] <:+: token
  /-- No comment up to a closing mark starts in it. -/
  noBlockMark : ¬ ['/', '*'] <:+: token

theorem blanked_code_cons (c : Char) (cs : List Char) (hblock : ∀ ds, c = '/' → cs ≠ '*' :: ds)
    (hline : ∀ ds, c = '/' → cs ≠ '/' :: ds) :
    blanked false (c :: cs) = prepend [c] (blanked false cs) := by
  rw [blanked]
  · exact fun ds hc hcs => hblock ds hc hcs
  · exact fun ds hc hcs => hline ds hc hcs

/-- A text in which no comment starts is left as it is. -/
theorem blanked_of_no_mark {cs : List Char} (hline : ¬ ['/', '/'] <:+: cs)
    (hblock : ¬ ['/', '*'] <:+: cs) : blanked false cs = (cs, false) := by
  induction cs with
  | nil => rfl
  | cons c cs ih =>
      have hrest := ih (fun h => hline (h.trans (List.suffix_cons c cs).isInfix))
        fun h => hblock (h.trans (List.suffix_cons c cs).isInfix)
      rw [blanked_code_cons, hrest]
      · rfl
      · rintro ds rfl rfl
        exact hblock ⟨[], ds, rfl⟩
      · rintro ds rfl rfl
        exact hline ⟨[], ds, rfl⟩

/-- A text without slashes at the front of code is left as it is. -/
theorem blanked_append {front : List Char} (hfront : '/' ∉ front) (cs : List Char) :
    blanked false (front ++ cs) = prepend front (blanked false cs) := by
  induction front with
  | nil => rfl
  | cons c front ih =>
      have hc : '/' ≠ c := List.ne_of_not_mem_cons hfront
      have hrest := ih (List.not_mem_of_not_mem_cons hfront)
      rw [List.cons_append, blanked_code_cons, hrest]
      · rfl
      · exact fun ds h => absurd h.symm hc
      · exact fun ds h => absurd h.symm hc

theorem blanked_opening {token : List Char} (h : IsToken token) :
    blanked false (opening token) = (opening token, false) := by
  have htoken : blanked false token = (token, false) :=
    blanked_of_no_mark h.noLineMark h.noBlockMark
  rw [opening_eq_append, blanked_append (by decide), htoken, prepend]

theorem trimStart_of_isWord {w : List Char} (h : IsWord w) : trimStart w = w := by
  obtain ⟨c, cs, rfl⟩ := List.exists_cons_of_ne_nil h.1
  exact List.dropWhile_cons_of_neg (by simp [h.2 c List.mem_cons_self])

theorem words_of_isWord {w : List Char} (h : IsWord w) : words w = [w] := by
  have hwords : words (w ++ []) = w :: words [] := words_word_append h rfl
  rwa [List.append_nil] at hwords

@[simp]
theorem not_continuesWord_space : continuesWord ' ' = false := by
  have hset : Property.alphanumeric.contains ' ' = false :=
    CharSet.holds_of_startsAbove Property.startsAbove_alphanumeric (by decide)
  rw [continuesWord, hset]
  decide

/-- On the line of a guard the token is found behind the keyword. -/
theorem lineScan?_opening {token : List Char} (h : IsWord token) (number : Nat) :
    lineScan? number (opening token) (opening token) = some (.found token number 9) := by
  have hsign : trimStart (opening token) = opening token :=
    List.dropWhile_cons_of_neg (by decide)
  have hkeyword : afterKeyword? (trimStart (opening token).tail) = some (' ' :: token) := by
    have hletter : ¬ isBlank 'i' = true := by decide
    rw [opening, List.tail_cons, keyword_eq, trimStart, List.cons_append,
      List.dropWhile_cons_of_neg hletter]
    exact afterKeyword?_cons (' ' :: token)
  have hgap : trimStart (' ' :: token) = token := by
    rw [trimStart, List.dropWhile_cons_of_pos Text.isBlank_space]
    exact trimStart_of_isWord h
  have hcolumn : columnAt (opening token) (byteCount (opening token) - byteCount token) = 9 := by
    rw [opening_eq_append, byteCount_append, Nat.add_sub_cancel, columnAt_append]
    rfl
  have hhead : (opening token).head? = some '#' := rfl
  have hspace : (' ' :: token).head?.any continuesWord = false := by
    rw [List.head?_cons, Option.any_some, not_continuesWord_space]
  rw [lineScan?, hsign, if_pos hhead, directiveScan, hkeyword]
  simp only [hspace, Bool.false_eq_true, if_false, hgap, words_of_isWord h, hcolumn]

/-! ### Headers -/

/-- The lines of a header without the byte order mark in front. -/
def unmarked : List String → List (List Char)
  | [] => []
  | raw :: rest => withoutMark raw.toList :: rest.map String.toList

/-- The first line is read without the byte order mark, and the others as they are. -/
theorem scan_of_unmarked {lines : List String} {first : List Char} {rest : List (List Char)}
    (hlines : unmarked lines = first :: rest) (room : Nat) :
    scan lines (room + 1)
      = (lineScan? 1 first (blanked false first).1).getD
        (scanFrom (blanked false first).2 2 (rest.take room)) := by
  cases lines with
  | nil => cases hlines
  | cons raw lines =>
      obtain ⟨rfl, rfl⟩ := List.cons.inj hlines
      rw [scan, List.take_succ_cons, List.map_cons, List.map_take, scanFrom_cons, if_pos rfl]

theorem scanFrom_opening {token : List Char} (h : IsToken token) {number : Nat}
    (hnumber : 1 < number) (tail : List (List Char)) :
    scanFrom false number (opening token :: tail) = .found token number 9 := by
  rw [scanFrom_cons, if_neg (by omega), blanked_opening h, lineScan?_opening h.word]
  rfl

/--
**A guard behind quiet lines is found.**  It is found at the line behind them, and its
token at the column behind the keyword.
-/
theorem scan_opening {lines : List String} {preamble tail : List (List Char)} {token : List Char}
    {limit : Nat} (hlines : unmarked lines = preamble ++ opening token :: tail)
    (hquiet : Quiet preamble) (hroom : preamble.length < limit) (htoken : IsToken token) :
    scan lines limit = .found token (preamble.length + 1) 9 := by
  obtain ⟨room, rfl⟩ := Nat.exists_eq_add_one_of_ne_zero (Nat.ne_zero_of_lt hroom)
  cases preamble with
  | nil =>
      rw [scan_of_unmarked hlines, blanked_opening htoken, lineScan?_opening htoken.word]
      rfl
  | cons line preamble =>
      rw [List.cons_append] at hlines
      have hline := lineScan?_of_no_directive (hquiet.noDirective _ List.mem_cons_self) 1 line
      have hrest : ∀ code ∈ blankedLines (blanked false line).2 preamble, directive? code = none :=
        fun code hcode => hquiet.noDirective code (List.mem_cons_of_mem _ hcode)
      have hclosed : openAfter (blanked false line).2 preamble = false := hquiet.closed
      have hwindow : (preamble ++ opening token :: tail).take room
          = preamble ++ opening token :: tail.take (room - preamble.length - 1) := by
        rw [List.length_cons] at hroom
        rw [List.take_append, List.take_of_length_le (by omega), List.take_cons (by omega)]
      rw [scan_of_unmarked hlines, hline, Option.getD_none, hwindow,
        scanFrom_append _ _ _ _ (by omega) hrest, hclosed, scanFrom_opening htoken (by omega),
        List.length_cons, Nat.add_comm 2, Nat.add_assoc]

end NameLint.Guard

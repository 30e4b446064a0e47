/-
Where the scanner finds what it finds.

The scanner counts bytes in a line with its comments blanked, and looks for the same bytes
in the line as it is written.  That is sound because blanking is a mask: every character
stays, or gives way to as many spaces as it has bytes (`masked_blanked`).  So a text
without spaces that stands in the blanked line stands in the written one too, after as
many bytes (`Masked.exists_place`), and the column counted from these bytes is its column
(`columnAt_append`).

The main statements are `scan_found` and `scan_invalid`: what the scanner finds is on one
of the lines within the limit, at the line and the column that it gives.
-/
import NameLint.Proofs.Dump.TypeSpelling
import NameLint.Proofs.Guard.Lexing

namespace NameLint.Guard

open TypeSpelling (IsWord isWord_of_mem_words)
open Text (byteCount trimStart words isBlank)

/-! ### Masks -/

/-- That some code is the line with characters covered, each by as many spaces as it has bytes. -/
inductive Masked : List Char → List Char → Prop
  | nil : Masked [] []
  | keep {line code : List Char} (c : Char) (rest : Masked line code) :
      Masked (c :: line) (c :: code)
  | cover {line code : List Char} (c : Char) (rest : Masked line code) :
      Masked (c :: line) (spacesFor [c] ++ code)

theorem masked_spacesFor (cs : List Char) : Masked cs (spacesFor cs) := by
  induction cs with
  | nil => exact .nil
  | cons c cs ih =>
      rw [← List.singleton_append, spacesFor_append]
      exact .cover c ih

/-- **Blanking the comments of a line is a mask.** -/
theorem masked_blanked (inBlock : Bool) (line : List Char) :
    Masked line (blanked inBlock line).1 := by
  fun_induction blanked inBlock line with
  | case1 inBlock => exact .nil
  | case2 cs ih => exact .cover '*' (.cover '/' ih)
  | case3 c cs _ ih => exact .cover c ih
  | case4 cs ih => exact .cover '/' (.cover '*' ih)
  | case5 cs => exact masked_spacesFor _
  | case6 c cs _ _ ih => exact .keep c ih

@[simp]
theorem byteCount_spacesFor (cs : List Char) : byteCount (spacesFor cs) = byteCount cs := by
  have hspaces : ∀ n, byteCount (List.replicate n ' ') = n := by
    intro n
    induction n with
    | zero => rfl
    | succ n ih =>
        rw [List.replicate_succ, byteCount, ih, Nat.add_comm]
        rfl
  exact hspaces _

theorem eq_space_of_mem_spacesFor {c : Char} {cs : List Char} (h : c ∈ spacesFor cs) : c = ' ' :=
  List.eq_of_mem_replicate h

/-- A text without spaces at the front of the code is at the front of the line. -/
theorem Masked.exists_front {line word after : List Char} (hword : ' ' ∉ word)
    (h : Masked line (word ++ after)) : ∃ back, line = word ++ back ∧ Masked back after := by
  induction word generalizing line with
  | nil => exact ⟨line, rfl, h⟩
  | cons c word ih =>
      have hrest : ' ' ∉ word := fun hmem => hword (by simp [hmem])
      generalize hcode : c :: word ++ after = code at h
      cases h with
      | nil => simp at hcode
      | keep d rest =>
          obtain ⟨rfl, rfl⟩ := List.cons.inj hcode
          obtain ⟨back, rfl, hback⟩ := ih hrest rest
          exact ⟨back, rfl, hback⟩
      | cover d rest =>
          have hmem : c ∈ spacesFor [d] := by
            have hpos : 0 < byteCount [d] :=
              Nat.lt_of_lt_of_le (Char.utf8Size_pos d) (by simp [byteCount])
            obtain ⟨n, hn⟩ := Nat.exists_eq_succ_of_ne_zero (Nat.ne_of_gt hpos)
            rw [spacesFor, hn, List.replicate_succ, List.cons_append, List.cons_append] at hcode
            obtain ⟨rfl, -⟩ := List.cons.inj hcode
            simp [spacesFor, hn]
          exact absurd (by simp [eq_space_of_mem_spacesFor hmem]) hword

/-- A text without spaces stands in the line after as many bytes as in the code. -/
theorem Masked.exists_place {line before word after : List Char} (hne : word ≠ [])
    (hword : ' ' ∉ word) (h : Masked line (before ++ (word ++ after))) :
    ∃ front back, line = front ++ word ++ back ∧ byteCount front = byteCount before := by
  generalize hcode : before ++ (word ++ after) = code at h
  induction h generalizing before with
  | nil => simp [hne] at hcode
  | keep c rest ih =>
      cases before with
      | nil =>
          rw [List.nil_append] at hcode
          obtain ⟨back, hback, -⟩ := Masked.exists_front hword (hcode ▸ Masked.keep c rest)
          exact ⟨[], back, hback, rfl⟩
      | cons b before =>
          obtain ⟨rfl, hrest⟩ := List.cons.inj hcode
          obtain ⟨front, back, rfl, hbytes⟩ := ih hrest
          exact ⟨b :: front, back, rfl, by rw [byteCount, byteCount, hbytes]⟩
  | @cover line code c rest ih =>
      -- The text cannot start among the spaces, so it starts behind them.
      have hbehind : ∃ more, before = spacesFor [c] ++ more ∧ more ++ (word ++ after) = code := by
        rcases List.append_eq_append_iff.mp hcode with
          ⟨spaces, hspaces, hstart⟩ | ⟨more, hmore, hrest⟩
        · cases spaces with
          | nil => exact ⟨[], by simpa using hspaces.symm, hstart⟩
          | cons d spaces =>
              obtain ⟨first, word, rfl⟩ := List.exists_cons_of_ne_nil hne
              obtain ⟨rfl, -⟩ := List.cons.inj hstart
              have hmem : first ∈ spacesFor [c] := by simp [hspaces]
              exact absurd (by simp [eq_space_of_mem_spacesFor hmem]) hword
        · exact ⟨more, hmore, hrest.symm⟩
      obtain ⟨more, rfl, hmore⟩ := hbehind
      obtain ⟨front, back, rfl, hbytes⟩ := ih hmore
      refine ⟨c :: front, back, rfl, ?_⟩
      rw [byteCount_append, byteCount_spacesFor, ← hbytes]
      rfl

/-! ### Columns -/

@[simp]
theorem splitBytes?_append (front back : List Char) :
    splitBytes? (byteCount front) (front ++ back) = some (front, back) := by
  induction front with
  | nil => cases back <;> rfl
  | cons c front ih =>
      have hpos : c.utf8Size + byteCount front ≠ 0 := by
        have := Char.utf8Size_pos c
        omega
      rw [byteCount, List.cons_append, splitBytes?, if_neg hpos]
      simp [ih]

/-- The column after some characters is one more than their number. -/
@[simp]
theorem columnAt_append (front back : List Char) :
    columnAt (front ++ back) (byteCount front) = front.length + 1 := by
  rw [columnAt, splitBytes?_append]
  rfl

/-- That a text stands in a line from a column on; columns are counted from one. -/
def StandsAt (line : List Char) (column : Nat) (text : List Char) : Prop :=
  ∃ front back, line = front ++ text ++ back ∧ column = front.length + 1

/-- The column that is counted for a text of the code is its column in the line. -/
theorem standsAt_of_masked {line code before word after : List Char} (h : Masked line code)
    (hcode : code = before ++ (word ++ after)) (hne : word ≠ []) (hword : ' ' ∉ word) :
    StandsAt line (columnAt line (byteCount code - byteCount (word ++ after))) word := by
  subst hcode
  obtain ⟨front, back, rfl, hbytes⟩ := h.exists_place hne hword
  refine ⟨front, back, rfl, ?_⟩
  rw [byteCount_append, Nat.add_sub_cancel, ← hbytes, List.append_assoc, columnAt_append]

/-! ### What is found on a line -/

/-- That what was found stands where it is said to stand, on the line with that number. -/
def Scan.PlacedOn (number : Nat) (line : List Char) : Scan → Prop
  | missing => True
  | invalid l column => l = number ∧ StandsAt line column ['#']
  | found token l column => l = number ∧ IsWord token ∧ StandsAt line column token

theorem exists_gap (text : List Char) : ∃ gap, text = gap ++ trimStart text :=
  ⟨text.takeWhile isBlank, List.takeWhile_append_dropWhile.symm⟩

theorem space_not_mem_of_isWord {w : List Char} (h : IsWord w) : ' ' ∉ w := by
  intro hmem
  exact absurd Text.isBlank_space (by simp [h.2 ' ' hmem])

/-- What follows the keyword and its gap is what the code ends in. -/
theorem exists_front_of_keyword {code before rest args : List Char}
    (hcode : code = before ++ '#' :: rest) (hkey : afterKeyword? (trimStart rest) = some args) :
    ∃ front, code = front ++ trimStart args := by
  obtain ⟨lead, hlead⟩ := exists_gap rest
  obtain ⟨gap, hgap⟩ := exists_gap args
  refine ⟨before ++ '#' :: (lead ++ ['i', 'f', 'n', 'd', 'e', 'f'] ++ gap), ?_⟩
  rw [hcode, hlead, afterKeyword?_eq_some hkey]
  simp [← hgap]

theorem directiveScan_placed {number : Nat} {line code before rest : List Char}
    (h : Masked line code) (hcode : code = before ++ '#' :: rest) :
    (directiveScan number line code ('#' :: rest)).PlacedOn number line := by
  unfold directiveScan
  rw [List.tail_cons]
  cases hkey : afterKeyword? (trimStart rest) with
  | none => trivial
  | some args =>
      by_cases hlonger : args.head?.any continuesWord = true
      · simp only [if_pos hlonger]
        trivial
      · simp only [if_neg hlonger]
        split
        · rename_i token hwords
          rw [Text.words_trimStart] at hwords
          have hmem : token ∈ words args := by simp [hwords]
          have htoken : IsWord token := isWord_of_mem_words token hmem
          obtain ⟨after, hafter⟩ := Text.prefix_of_words hwords
          obtain ⟨front, hsplit⟩ := exists_front_of_keyword hcode hkey
          refine ⟨rfl, htoken, ?_⟩
          rw [← hafter] at hsplit ⊢
          exact standsAt_of_masked h hsplit htoken.1 (space_not_mem_of_isWord htoken)
        · have hsplit : code = before ++ (['#'] ++ rest) := hcode
          exact ⟨rfl, standsAt_of_masked h hsplit (List.cons_ne_nil _ _) (by decide)⟩

theorem lineScan?_placed {number : Nat} {line code : List Char} {scan : Scan}
    (h : Masked line code) (hscan : lineScan? number line code = some scan) :
    scan.PlacedOn number line := by
  unfold lineScan? at hscan
  by_cases hhead : (trimStart code).head? = some '#'
  · obtain ⟨rest, hrest⟩ := List.head?_eq_some_iff.mp hhead
    obtain ⟨before, hbefore⟩ := exists_gap code
    rw [hrest] at hbefore hscan
    simp only [List.head?_cons, if_true, Option.some.injEq] at hscan
    rw [← hscan]
    exact directiveScan_placed h hbefore
  · simp [hhead] at hscan

/-! ### What is found in a header -/

/-- What is found stands on one of the lines. -/
theorem scanFrom_placed : ∀ (lines : List (List Char)) (inBlock : Bool) (number : Nat),
    scanFrom inBlock number lines = .missing ∨ ∃ i raw, lines[i]? = some raw ∧
      (scanFrom inBlock number lines).PlacedOn (number + i)
        (if number + i = 1 then withoutMark raw else raw) := by
  intro lines
  induction lines with
  | nil => intro inBlock number; exact Or.inl rfl
  | cons raw rest ih =>
      intro inBlock number
      rw [scanFrom_cons]
      generalize hline : (if number = 1 then withoutMark raw else raw) = line
      cases hscan : lineScan? number line (blanked inBlock line).1 with
      | some scan =>
          refine Or.inr ⟨0, raw, rfl, ?_⟩
          rw [Nat.add_zero, hline]
          exact lineScan?_placed (masked_blanked inBlock line) hscan
      | none =>
          rw [Option.getD_none]
          rcases ih (blanked inBlock line).2 (number + 1) with
            hmissing | ⟨i, found, hfound, hplaced⟩
          · exact Or.inl hmissing
          · refine Or.inr ⟨i + 1, found, hfound, ?_⟩
            rw [Nat.add_assoc, Nat.add_comm 1 i] at hplaced
            exact hplaced

/--
A line of a header by its number; lines are counted from one, and the byte order mark is no
part of the first one.
-/
def headerLine? (lines : List String) : Nat → Option (List Char)
  | 0 => none
  | i + 1 => lines[i]?.map fun raw => if i = 0 then withoutMark raw.toList else raw.toList

/-- That a text stands in a header, on a line within the limit and from a column on. -/
def StandsIn (lines : List String) (limit line column : Nat) (text : List Char) : Prop :=
  line ≤ limit ∧ ∃ l, headerLine? lines line = some l ∧ StandsAt l column text

/-- That what was found stands in the header where it is said to stand. -/
def Scan.PlacedIn (lines : List String) (limit : Nat) : Scan → Prop
  | missing => True
  | invalid line column => StandsIn lines limit line column ['#']
  | found token line column => IsWord token ∧ StandsIn lines limit line column token

theorem Scan.PlacedOn.placedIn {lines : List String} {limit number : Nat} {line : List Char}
    {scan : Scan} (hlimit : number ≤ limit) (hline : headerLine? lines number = some line)
    (h : scan.PlacedOn number line) : scan.PlacedIn lines limit := by
  cases scan with
  | missing => trivial
  | invalid l column =>
      obtain ⟨rfl, hstands⟩ := h
      exact ⟨hlimit, line, hline, hstands⟩
  | found token l column =>
      obtain ⟨rfl, htoken, hstands⟩ := h
      exact ⟨htoken, hlimit, line, hline, hstands⟩

theorem scan_placed (lines : List String) (limit : Nat) :
    (scan lines limit).PlacedIn lines limit := by
  rcases scanFrom_placed ((lines.take limit).map String.toList) false 1 with
    hmissing | ⟨i, raw, hraw, hplaced⟩
  · have hscan : scan lines limit = .missing := hmissing
    rw [hscan]
    trivial
  · rw [List.getElem?_map, Option.map_eq_some_iff] at hraw
    obtain ⟨text, htext, rfl⟩ := hraw
    have hlimit : i < limit := by
      have hlt := (List.getElem?_eq_some_iff.mp htext).1
      rw [List.length_take] at hlt
      omega
    rw [List.getElem?_take_of_lt hlimit] at htext
    refine Scan.PlacedOn.placedIn (by omega) ?_ hplaced
    rw [Nat.add_comm, headerLine?, htext]
    simp

/-- **The token that is found stands in the header at the place that is given.** -/
theorem scan_found {lines : List String} {limit line column : Nat} {token : List Char}
    (h : scan lines limit = .found token line column) :
    IsWord token ∧ StandsIn lines limit line column token := by
  have hplaced := scan_placed lines limit
  rwa [h] at hplaced

/-- **At the place of a guard that is not valid stands the sign of a directive.** -/
theorem scan_invalid {lines : List String} {limit line column : Nat}
    (h : scan lines limit = .invalid line column) : StandsIn lines limit line column ['#'] := by
  have hplaced := scan_placed lines limit
  rwa [h] at hplaced

end NameLint.Guard

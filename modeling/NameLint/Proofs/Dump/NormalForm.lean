/-
The canonical spelling is a normal form.

What a spelling says is its characters and which of them blanks separate (`GapAt`).  How
long a gap is says nothing, nor does a gap in front of a mark.  The canonical spelling keeps
just what is said: two spellings have the same one exactly if they say the same
(`canonical_eq_iff`), and it has no blank that could be left out (`IsTidy`).

The words of a spelling are not what the proofs go by, since marks make several words into
one.  They go by `pieces`, the characters one by one, each with whether a space is written
in front of it: this list is a function of what the spelling says, and it can be read off
the canonical spelling.
-/
import Mathlib.Data.List.Chain
import NameLint.Proofs.Dump.TypeSpelling

namespace NameLint.TypeSpelling

open Text (words trimStart isBlank)

/-! ### What a spelling says -/

/-- The characters of a text that are not blank. -/
def solid (cs : List Char) : List Char :=
  cs.filter fun c => !isBlank c

/-- That there is a blank in a text behind `i` characters that are not blank. -/
def GapAt (cs : List Char) (i : Nat) : Prop :=
  ∃ front blank back, cs = front ++ blank :: back ∧ isBlank blank = true ∧ (solid front).length = i

@[simp]
theorem solid_cons_of_isBlank {c : Char} (hc : isBlank c = true) (cs : List Char) :
    solid (c :: cs) = solid cs := by
  simp [solid, hc]

@[simp]
theorem solid_cons {c : Char} (hc : ¬ isBlank c = true) (cs : List Char) :
    solid (c :: cs) = c :: solid cs := by
  simp [solid, hc]

@[simp]
theorem solid_append (cs ds : List Char) : solid (cs ++ ds) = solid cs ++ solid ds :=
  List.filter_append ..

@[simp]
theorem not_gapAt_nil (i : Nat) : ¬ GapAt [] i := by
  rintro ⟨front, blank, back, hsplit, -⟩
  simp at hsplit

@[simp]
theorem gapAt_cons_of_isBlank {c : Char} (hc : isBlank c = true) (cs : List Char) (i : Nat) :
    GapAt (c :: cs) i ↔ i = 0 ∨ GapAt cs i := by
  constructor
  · rintro ⟨front, blank, back, hsplit, hblank, rfl⟩
    cases front with
    | nil => exact Or.inl rfl
    | cons d front =>
        obtain ⟨rfl, hrest⟩ := List.cons.inj hsplit
        exact Or.inr ⟨front, blank, back, hrest, hblank, by rw [solid_cons_of_isBlank hc]⟩
  · rintro (rfl | ⟨front, blank, back, rfl, hblank, rfl⟩)
    · exact ⟨[], c, cs, rfl, hc, rfl⟩
    · exact ⟨c :: front, blank, back, rfl, hblank, by rw [solid_cons_of_isBlank hc]⟩

@[simp]
theorem gapAt_cons_zero {c : Char} (hc : ¬ isBlank c = true) (cs : List Char) :
    ¬ GapAt (c :: cs) 0 := by
  rintro ⟨front, blank, back, hsplit, hblank, hcount⟩
  cases front with
  | nil =>
      obtain ⟨rfl, -⟩ := List.cons.inj hsplit
      exact hc hblank
  | cons d front =>
      obtain ⟨rfl, -⟩ := List.cons.inj hsplit
      simp [hc] at hcount

@[simp]
theorem gapAt_cons_succ {c : Char} (hc : ¬ isBlank c = true) (cs : List Char) (i : Nat) :
    GapAt (c :: cs) (i + 1) ↔ GapAt cs i := by
  constructor
  · rintro ⟨front, blank, back, hsplit, hblank, hcount⟩
    cases front with
    | nil => simp [solid] at hcount
    | cons d front =>
        obtain ⟨rfl, hrest⟩ := List.cons.inj hsplit
        rw [solid_cons hc, List.length_cons, Nat.add_right_cancel_iff] at hcount
        exact ⟨front, blank, back, hrest, hblank, hcount⟩
  · rintro ⟨front, blank, back, rfl, hblank, rfl⟩
    exact ⟨c :: front, blank, back, rfl, hblank, by rw [solid_cons hc, List.length_cons]⟩

@[simp]
theorem solid_trimStart (cs : List Char) : solid (trimStart cs) = solid cs :=
  Text.apply_trimStart solid (fun _ cs hc => solid_cons_of_isBlank hc cs) cs

/-- Blanks in front of everything separate nothing. -/
theorem gapAt_trimStart {i : Nat} (hi : 0 < i) (cs : List Char) :
    GapAt (trimStart cs) i ↔ GapAt cs i := by
  have hblank : ∀ c cs, isBlank c = true → GapAt (c :: cs) i = GapAt cs i := by
    intro c cs hc
    have hne : i ≠ 0 := by omega
    rw [gapAt_cons_of_isBlank hc, eq_iff_iff]
    simp [hne]
  exact iff_of_eq (Text.apply_trimStart (GapAt · i) hblank cs)

/-! ### Characters with what stands before them -/

/--
The characters of a text that are not blank, each with whether blanks stand right before
it; `gap` if some stand before the text.
-/
def cells (gap : Bool) : List Char → List (Bool × Char)
  | [] => []
  | c :: cs => if isBlank c then cells true cs else (gap, c) :: cells false cs

@[simp]
theorem map_snd_cells (gap : Bool) (cs : List Char) : (cells gap cs).map Prod.snd = solid cs := by
  induction cs generalizing gap with
  | nil => rfl
  | cons c cs ih =>
      by_cases hc : isBlank c = true
      · rw [cells, if_pos hc, ih, solid_cons_of_isBlank hc]
      · rw [cells, if_neg hc, List.map_cons, ih, solid_cons hc]

/-- The cells tell where the gaps are. -/
theorem gap_of_getElem?_cells {gap g : Bool} {cs : List Char} {i : Nat} {c : Char}
    (h : (cells gap cs)[i]? = some (g, c)) :
    g = true ↔ (i = 0 ∧ gap = true) ∨ GapAt cs i := by
  induction cs generalizing gap i with
  | nil => simp [cells] at h
  | cons d cs ih =>
      by_cases hd : isBlank d = true
      · rw [cells, if_pos hd] at h
        rw [ih h, gapAt_cons_of_isBlank hd]
        by_cases hi : i = 0 <;> simp [hi]
      · rw [cells, if_neg hd] at h
        cases i with
        | zero =>
            obtain ⟨rfl, rfl⟩ : gap = g ∧ d = c := by simpa using h
            simp [hd]
        | succ i =>
            rw [List.getElem?_cons_succ] at h
            rw [ih h, gapAt_cons_succ hd]
            simp

/-- At the end of a word it makes no difference whether the text goes on with a gap. -/
theorem cells_of_end {cs : List Char} (h : (cs.head?.map isBlank).getD true = true) :
    cells false cs = cells true cs := by
  cases cs with
  | nil => rfl
  | cons c cs =>
      have hc : isBlank c = true := by simpa using h
      rw [cells, cells, if_pos hc, if_pos hc]

/-! ### Pieces -/

/-- A character with whether a space is to be written in front of it, which marks do not have. -/
def piece (cell : Bool × Char) : Bool × Char :=
  (cell.1 && !isMark cell.2, cell.2)

/-- A piece as it is written. -/
def pieceText (p : Bool × Char) : List Char :=
  if p.1 then [' ', p.2] else [p.2]

/-- The pieces of the canonical spelling. -/
def pieces (cs : List Char) : List (Bool × Char) :=
  (cells false (trimStart cs)).map piece

theorem following_singleton (c : Char) : following [c] = pieceText (piece (true, c)) := by
  unfold following pieceText piece
  cases hmark : isMark c <;> simp [hmark]

@[simp]
theorem pieceText_of_no_gap (c : Char) : pieceText (piece (false, c)) = [c] := rfl

/-- A text as it is written behind another one, and, if it starts with a word, by itself. -/
theorem flatMap_cells (cs : List Char) :
    (words cs).flatMap following = ((cells true cs).map piece).flatMap pieceText ∧
      ((cs.head?.map isBlank).getD true = false →
        joined (words cs) = ((cells false cs).map piece).flatMap pieceText) := by
  induction cs with
  | nil => exact ⟨rfl, fun _ => rfl⟩
  | cons c cs ih =>
      by_cases hc : isBlank c = true
      · rw [Text.words_cons_of_isBlank hc, cells, if_pos hc]
        exact ⟨ih.1, fun h => by simp [hc] at h⟩
      · rw [words, if_neg hc, cells, cells, if_neg hc, if_neg hc]
        simp only [List.map_cons, List.flatMap_cons, pieceText_of_no_gap]
        by_cases hend : (cs.head?.map isBlank).getD true = true
        · rw [if_pos hend, cells_of_end hend, ← ih.1, ← following_singleton]
          exact ⟨List.flatMap_cons, fun _ => rfl⟩
        · rw [if_neg hend, ← ih.2 (by simpa using hend), ← following_singleton]
          cases words cs with
          | nil => exact ⟨by simp [joined], fun _ => rfl⟩
          | cons w ws =>
              have hword : following (c :: w) = following [c] ++ w :=
                following_append (List.cons_ne_nil c []) w
              refine ⟨?_, fun _ => rfl⟩
              rw [List.flatMap_cons, hword, joined, List.append_assoc]

theorem canonicalChars_eq (cs : List Char) : canonicalChars cs = (pieces cs).flatMap pieceText := by
  unfold canonicalChars pieces
  rw [← Text.words_trimStart]
  cases htrim : trimStart cs with
  | nil => rfl
  | cons c rest =>
      have hc : isBlank c = false := Text.isBlank_of_trimStart_eq_cons htrim
      exact (flatMap_cells (c :: rest)).2 (by simp [hc])

/-! ### Reading the pieces off the canonical spelling -/

variable {cs ds : List Char} {ps qs : List (Bool × Char)}

theorem isBlank_of_mem_pieces {p : Bool × Char} (hp : p ∈ pieces cs) : isBlank p.2 = false := by
  obtain ⟨cell, hcell, rfl⟩ := List.mem_map.mp hp
  have hsolid : cell.2 ∈ solid (trimStart cs) := by
    rw [← map_snd_cells false]
    exact List.mem_map_of_mem hcell
  simpa [piece] using (List.mem_filter.mp hsolid).2

/-- A written text tells its pieces, since no character of a piece is a space. -/
theorem flatMap_pieceText_inj (hp : ∀ p ∈ ps, isBlank p.2 = false)
    (hq : ∀ q ∈ qs, isBlank q.2 = false) (h : ps.flatMap pieceText = qs.flatMap pieceText) :
    ps = qs := by
  have hne : ∀ c, isBlank c = false → ' ' ≠ c := by
    rintro c hc rfl
    rw [Text.isBlank_space] at hc
    cases hc
  induction ps generalizing qs with
  | nil =>
      cases qs with
      | nil => rfl
      | cons q qs => cases hgap : q.1 <;> simp [pieceText, hgap] at h
  | cons p ps ih =>
      obtain ⟨hfirst, hrest⟩ := List.forall_mem_cons.mp hp
      cases qs with
      | nil => cases hgap : p.1 <;> simp [pieceText, hgap] at h
      | cons q qs =>
          obtain ⟨hother, hothers⟩ := List.forall_mem_cons.mp hq
          obtain ⟨gap, c⟩ := p
          obtain ⟨gap', d⟩ := q
          -- The first character written is a space or one of a piece, and so tells which.
          cases gap <;> cases gap' <;> simp [pieceText] at h
          · rw [h.1, ih hrest hothers h.2]
          · exact absurd h.1.symm (hne c hfirst)
          · exact absurd h.1 (hne d hother)
          · rw [h.1, ih hrest hothers h.2]

theorem canonicalChars_eq_iff_pieces :
    canonicalChars cs = canonicalChars ds ↔ pieces cs = pieces ds := by
  rw [canonicalChars_eq, canonicalChars_eq]
  refine ⟨flatMap_pieceText_inj ?_ ?_, fun h => by rw [h]⟩
  · exact fun p hp => isBlank_of_mem_pieces hp
  · exact fun p hp => isBlank_of_mem_pieces hp

/-! ### Which spellings are the same -/

@[simp]
theorem map_snd_pieces (cs : List Char) : (pieces cs).map Prod.snd = solid cs := by
  rw [pieces, List.map_map, ← solid_trimStart, ← map_snd_cells false]
  rfl

/-- A space is written where there is a gap between two characters and no mark behind it. -/
theorem gap_of_getElem?_pieces {gap : Bool} {i : Nat} {c : Char}
    (h : (pieces cs)[i]? = some (gap, c)) :
    gap = true ↔ 0 < i ∧ isMark c = false ∧ GapAt cs i := by
  rw [pieces, List.getElem?_map, Option.map_eq_some_iff] at h
  obtain ⟨⟨g, d⟩, hcell, hpiece⟩ := h
  obtain ⟨rfl, rfl⟩ : (g && !isMark d) = gap ∧ d = c := by simpa [piece] using hpiece
  have hgap := gap_of_getElem?_cells hcell
  rw [Bool.and_eq_true, hgap]
  cases i with
  | zero =>
      -- The text has no blanks in front any more.
      have hstart : ¬ GapAt (trimStart cs) 0 := by
        cases htrim : trimStart cs with
        | nil => exact not_gapAt_nil 0
        | cons e rest =>
            exact gapAt_cons_zero (by simp [Text.isBlank_of_trimStart_eq_cons htrim]) rest
      simp [hstart]
  | succ i =>
      rw [gapAt_trimStart (Nat.succ_pos i)]
      simp [and_comm]

/-- Pieces with the same characters and the same spaces in front of them are the same. -/
theorem pieces_ext (hchars : ps.map Prod.snd = qs.map Prod.snd)
    (hgaps : ∀ (i : Nat) (gap other : Bool) (c : Char), ps[i]? = some (gap, c) →
      qs[i]? = some (other, c) → (gap = true ↔ other = true)) : ps = qs := by
  refine List.ext_getElem? fun i => ?_
  have hat := congrArg (·[i]?) hchars
  simp only [List.getElem?_map] at hat
  cases hleft : ps[i]? with
  | none =>
      rw [hleft, Option.map_none, eq_comm, Option.map_eq_none_iff] at hat
      exact hat.symm
  | some p =>
      rw [hleft, Option.map_some, eq_comm, Option.map_eq_some_iff] at hat
      obtain ⟨⟨other, c⟩, hright, rfl⟩ := hat
      rw [hright, ← Bool.eq_iff_iff.mpr (hgaps i p.1 other p.2 hleft hright)]

/--
Two texts have one canonical spelling exactly if they have the same characters and the same
gaps in front of those that are no marks.
-/
theorem canonicalChars_eq_iff : canonicalChars cs = canonicalChars ds ↔
    solid cs = solid ds ∧ ∀ i c, 0 < i → (solid cs)[i]? = some c → isMark c = false →
      (GapAt cs i ↔ GapAt ds i) := by
  rw [canonicalChars_eq_iff_pieces]
  constructor
  · intro h
    refine ⟨by rw [← map_snd_pieces, ← map_snd_pieces, h], fun i c hi hc hmark => ?_⟩
    rw [← map_snd_pieces, List.getElem?_map, Option.map_eq_some_iff] at hc
    obtain ⟨⟨gap, d⟩, hpiece, rfl⟩ := hc
    have hleft := gap_of_getElem?_pieces hpiece
    have hright := gap_of_getElem?_pieces (h ▸ hpiece)
    simpa [hi, hmark] using hleft.symm.trans hright
  · rintro ⟨hsolid, hgaps⟩
    have hchars : (pieces cs).map Prod.snd = (pieces ds).map Prod.snd := by
      rw [map_snd_pieces, map_snd_pieces, hsolid]
    refine pieces_ext hchars fun i gap other c hleft hright => ?_
    have hc : (solid cs)[i]? = some c := by
      rw [← map_snd_pieces, List.getElem?_map, hleft]
      rfl
    rw [gap_of_getElem?_pieces hleft, gap_of_getElem?_pieces hright]
    constructor
    · rintro ⟨hi, hmark, hgap⟩
      exact ⟨hi, hmark, (hgaps i c hi hc hmark).mp hgap⟩
    · rintro ⟨hi, hmark, hgap⟩
      exact ⟨hi, hmark, (hgaps i c hi hc hmark).mpr hgap⟩

theorem canonical_eq_iff {s t : String} : canonical s = canonical t ↔
    solid s.toList = solid t.toList ∧
      ∀ i c, 0 < i → (solid s.toList)[i]? = some c → isMark c = false →
        (GapAt s.toList i ↔ GapAt t.toList i) := by
  rw [canonical, canonical, String.ofList_inj, canonicalChars_eq_iff]

/-! ### No blank too many -/

/-- That a character may stand behind another one: behind a blank no other blank and no mark may. -/
def MayFollow (c d : Char) : Prop :=
  isBlank c = true → isBlank d = false ∧ isMark d = false

/-- A text in which no blank can be left out. -/
structure IsTidy (cs : List Char) : Prop where
  /-- It does not start with a blank. -/
  first : ∀ c ∈ cs.head?, isBlank c = false
  /-- It does not end in a blank. -/
  last : ∀ c ∈ cs.getLast?, isBlank c = false
  /-- Its blanks are spaces. -/
  space : ∀ c ∈ cs, isBlank c = true → c = ' '
  /-- Its blanks stand alone and not in front of marks. -/
  next : cs.IsChain MayFollow

theorem mem_pieceText {c : Char} {p : Bool × Char} (h : c ∈ pieceText p) : c = ' ' ∨ c = p.2 := by
  unfold pieceText at h
  split at h
  · simpa using h
  · exact Or.inr (List.mem_singleton.mp h)

theorem getLast?_flatMap_pieceText (ps : List (Bool × Char)) :
    (ps.flatMap pieceText).getLast? = ps.getLast?.map Prod.snd := by
  rcases List.eq_nil_or_concat ps with rfl | ⟨init, p, rfl⟩
  · rfl
  · cases hgap : p.1 <;> simp [pieceText, hgap]

theorem isChain_flatMap_pieceText (hsolid : ∀ p ∈ ps, isBlank p.2 = false)
    (hmark : ∀ p ∈ ps, p.1 = true → isMark p.2 = false) :
    (ps.flatMap pieceText).IsChain MayFollow := by
  induction ps with
  | nil => exact .nil
  | cons p ps ih =>
      obtain ⟨hp, hps⟩ := List.forall_mem_cons.mp hsolid
      obtain ⟨hpmark, hpsmark⟩ := List.forall_mem_cons.mp hmark
      have hsecond : (p.2 :: ps.flatMap pieceText).IsChain MayFollow := by
        refine List.isChain_cons.mpr ⟨fun d _ hblank => ?_, ih hps hpsmark⟩
        rw [hp] at hblank
        cases hblank
      rw [List.flatMap_cons, pieceText]
      by_cases hgap : p.1 = true
      · rw [if_pos hgap]
        exact List.isChain_cons_cons.mpr ⟨fun _ => ⟨hp, hpmark hgap⟩, hsecond⟩
      · rw [if_neg hgap]
        exact hsecond

/-- What is written in front of everything is no space. -/
theorem head?_flatMap_pieceText {c : Char} (h : c ∈ ((pieces cs).flatMap pieceText).head?) :
    ∃ p ∈ pieces cs, p.2 = c := by
  cases hpieces : pieces cs with
  | nil => simp [hpieces] at h
  | cons p ps =>
      have hstart : (pieces cs)[0]? = some (p.1, p.2) := by simp [hpieces]
      have hgap : p.1 = false := by simpa using gap_of_getElem?_pieces hstart
      exact ⟨p, List.mem_cons_self, by simpa [hpieces, pieceText, hgap] using h⟩

theorem isTidy_canonicalChars (cs : List Char) : IsTidy (canonicalChars cs) := by
  have hmark : ∀ p ∈ pieces cs, p.1 = true → isMark p.2 = false := by
    intro p hp hgap
    obtain ⟨i, hi⟩ := List.mem_iff_getElem?.mp hp
    exact ((gap_of_getElem?_pieces hi).mp hgap).2.1
  rw [canonicalChars_eq]
  refine ⟨?_, ?_, ?_, isChain_flatMap_pieceText (fun p hp => isBlank_of_mem_pieces hp) hmark⟩
  · intro c hc
    obtain ⟨p, hp, rfl⟩ := head?_flatMap_pieceText hc
    exact isBlank_of_mem_pieces hp
  · intro c hc
    rw [getLast?_flatMap_pieceText, Option.mem_def, Option.map_eq_some_iff] at hc
    obtain ⟨p, hp, rfl⟩ := hc
    exact isBlank_of_mem_pieces (List.mem_of_getLast? hp)
  · intro c hc hblank
    obtain ⟨p, hp, hmem⟩ := List.mem_flatMap.mp hc
    rcases mem_pieceText hmem with rfl | rfl
    · rfl
    · rw [isBlank_of_mem_pieces hp] at hblank
      cases hblank

/--
**The canonical spelling is a complete normal form.**  Two spellings have the same one
exactly if they have the same characters and agree, in front of every character but the
first and the marks, on whether there is a gap.  It has no blank that could be left out, and
it is its own canonical spelling.
-/
theorem canonical_normal_form (s t : String) :
    (canonical s = canonical t ↔ solid s.toList = solid t.toList ∧
      ∀ i c, 0 < i → (solid s.toList)[i]? = some c → isMark c = false →
        (GapAt s.toList i ↔ GapAt t.toList i)) ∧
      IsTidy (canonical s).toList ∧ canonical (canonical s) = canonical s := by
  refine ⟨canonical_eq_iff, ?_, canonical_canonical s⟩
  rw [canonical, String.toList_ofList]
  exact isTidy_canonicalChars s.toList

end NameLint.TypeSpelling

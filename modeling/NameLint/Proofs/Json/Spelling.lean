/-
The texts of a value, and reading them.

A value has many texts, which differ in the blanks between their parts.  `Spells` is the
relation between a value and its texts as far as writers choose among them: blanks after
the opening bracket, after each comma and colon, and in front of the closing bracket.  The
compact text is one spelling and the laid out text another, and what is shown of readers
holds for all.

`ReadsAs` says that a reader takes every spelling of a value for the same thing, wherever
the value stands.  A record is read entry by entry, and `Takes` says of an entry what it
changes in the record that is being read.
-/
import Mathlib.Data.List.Forall2
import NameLint.Proofs.Json.Literal

namespace NameLint.Json

/-! ### Gaps -/

/-- Text that may stand between the parts of a document. -/
def Gap (cs : List Char) : Prop :=
  ∀ c ∈ cs, isGap c = true

theorem gap_nil : Gap [] := by
  intro c hc
  cases hc

theorem gap_newLine (depth : Nat) : Gap (newLine depth) := by
  intro c hc
  rcases List.mem_cons.mp hc with rfl | hc
  · rfl
  · rw [List.eq_of_mem_replicate hc]
    rfl

theorem skipGaps_append {gap : List Char} (hgap : Gap gap) (cs : List Char) :
    skipGaps (gap ++ cs) = skipGaps cs := by
  induction gap with
  | nil => rfl
  | cons g gap ih =>
      have hg := hgap g List.mem_cons_self
      rw [List.cons_append, skipGaps, List.dropWhile_cons_of_pos hg]
      exact ih fun c hc => hgap c (List.mem_cons_of_mem g hc)

theorem skipGaps_cons {c : Char} (hc : isGap c = false) (cs : List Char) :
    skipGaps (c :: cs) = c :: cs :=
  List.dropWhile_cons_of_neg (by rw [hc]; decide)

theorem endsNumber_append {gap rest : List Char} (hgap : Gap gap) (hrest : EndsNumber rest) :
    EndsNumber (gap ++ rest) := by
  cases gap with
  | nil => exact hrest
  | cons g gap =>
      have hg := hgap g List.mem_cons_self
      simp only [isGap, Bool.or_eq_true, decide_eq_true_eq] at hg
      rintro c hc
      cases hc
      rcases hg with ((rfl | rfl) | rfl) | rfl <;> decide

theorem endsNumber_cons {c : Char} (hc : c = ',' ∨ c = ']' ∨ c = '\x7d') (rest : List Char) :
    EndsNumber (c :: rest) := by
  rintro d ⟨⟩
  rcases hc with rfl | rfl | rfl <;> decide

theorem endsNumber_nil : EndsNumber [] := by
  intro c hc
  cases hc

/-! ### Spellings -/

/-- Pieces between brackets, with gaps around the pieces. -/
def framed (opening closing : Char) (before after : List Char) (pieces : List (List Char)) :
    List Char :=
  opening :: before ++ joinWith (',' :: before) pieces ++ after ++ [closing]

mutual

/-- The texts of a value. -/
def Spells : Json → List Char → Prop
  | .null, cs => cs = "null".toList
  | .bool b, cs => cs = if b then "true".toList else "false".toList
  | .int i, cs => cs = intLiteral i
  | .float x, cs => cs = (Layout.documents.text x).toList
  | .str s, cs => cs = textLiteral s
  | .list items, cs => ∃ before after pieces, Gap before ∧ Gap after ∧ SpellsItems items pieces ∧
      cs = framed '[' ']' before after pieces
  | .dict entries, cs => ∃ before after pieces, Gap before ∧ Gap after ∧
      SpellsEntries entries pieces ∧ cs = framed '\x7b' '\x7d' before after pieces

/-- The texts of the items of a list. -/
def SpellsItems : List Json → List (List Char) → Prop
  | [], pieces => pieces = []
  | item :: items, pieces =>
    ∃ cs rest, Spells item cs ∧ SpellsItems items rest ∧ pieces = cs :: rest

/-- The texts of the entries of a dictionary. -/
def SpellsEntries : List (String × Json) → List (List Char) → Prop
  | [], pieces => pieces = []
  | (key, value) :: entries, pieces => ∃ gap cs rest, Gap gap ∧ Spells value cs ∧
      SpellsEntries entries rest ∧ pieces = (textLiteral key ++ ':' :: gap ++ cs) :: rest

end

mutual

theorem spells_compactChars : (value : Json) → Spells value (compactChars value)
  | .null | .bool _ | .int _ | .float _ | .str _ => rfl
  | .list items =>
    ⟨[], [], _, gap_nil, gap_nil, spells_compactItems items, by simp [framed, compactChars]⟩
  | .dict entries =>
    ⟨[], [], _, gap_nil, gap_nil, spells_compactEntries entries, by simp [framed, compactChars]⟩

theorem spells_compactItems : (items : List Json) → SpellsItems items (compactItems items)
  | [] => rfl
  | item :: items => ⟨_, _, spells_compactChars item, spells_compactItems items, rfl⟩

theorem spells_compactEntries : (entries : List (String × Json)) →
    SpellsEntries entries (compactEntries entries)
  | [] => rfl
  | (_, value) :: entries =>
    ⟨[], _, _, gap_nil, spells_compactChars value, spells_compactEntries entries,
      by simp [compactEntries]⟩

end

theorem bracketed_eq_framed (opening closing : Char) (depth : Nat) (pieces : List (List Char)) :
    ∃ before after, Gap before ∧ Gap after ∧
      bracketed opening closing depth pieces = framed opening closing before after pieces := by
  cases pieces with
  | nil => exact ⟨[], [], gap_nil, gap_nil, rfl⟩
  | cons piece pieces =>
      exact ⟨newLine (depth + 1), newLine depth, gap_newLine _, gap_newLine _, rfl⟩

mutual

theorem spells_prettyChars (depth : Nat) : (value : Json) → Spells value (prettyChars depth value)
  | .null | .bool _ | .int _ | .float _ | .str _ => rfl
  | .list items =>
    have ⟨before, after, hbefore, hafter, heq⟩ :=
      bracketed_eq_framed '[' ']' depth (prettyItems (depth + 1) items)
    ⟨before, after, _, hbefore, hafter, spells_prettyItems (depth + 1) items, heq⟩
  | .dict entries =>
    have ⟨before, after, hbefore, hafter, heq⟩ :=
      bracketed_eq_framed '\x7b' '\x7d' depth (prettyEntries (depth + 1) entries)
    ⟨before, after, _, hbefore, hafter, spells_prettyEntries (depth + 1) entries, heq⟩

theorem spells_prettyItems (depth : Nat) : (items : List Json) →
    SpellsItems items (prettyItems depth items)
  | [] => rfl
  | item :: items => ⟨_, _, spells_prettyChars depth item, spells_prettyItems depth items, rfl⟩

theorem spells_prettyEntries (depth : Nat) : (entries : List (String × Json)) →
    SpellsEntries entries (prettyEntries depth entries)
  | [] => rfl
  | (_, value) :: entries =>
    ⟨[' '], _, _, by simp [Gap, isGap], spells_prettyChars depth value,
      spells_prettyEntries depth entries, by simp [prettyEntries]⟩

end

/-! ### Single values -/

/-- That a reader takes every text of a value for the same thing and stops behind it. -/
def ReadsAs {α : Type} (read : Read α) (value : Json) (a : α) : Prop :=
  ∀ gap cs rest, Gap gap → Spells value cs → EndsNumber rest →
    read (gap ++ cs ++ rest) = .ok (a, rest)

theorem skipGaps_text {gap : List Char} (hgap : Gap gap) (s : String) (rest : List Char) :
    skipGaps (gap ++ textLiteral s ++ rest)
      = '"' :: (s.toList.flatMap escapeChar ++ '"' :: rest) := by
  rw [List.append_assoc, skipGaps_append hgap, textLiteral, List.cons_append, List.cons_append,
    skipGaps_cons rfl, List.append_assoc]
  rfl

theorem textOr_readsAs (expected s : String) : ReadsAs (textOr expected) (.str s) s := by
  rintro gap _ rest hgap rfl -
  rw [textOr, skipGaps_text hgap]
  exact text_of_literal s rest

theorem truth_readsAs (b : Bool) : ReadsAs truth (.bool b) b := by
  rintro gap _ rest hgap rfl -
  rw [truth, List.append_assoc, skipGaps_append hgap]
  cases b <;> rfl

theorem intLiteral_natCast (n : Nat) : intLiteral n = Nat.toDigits 10 n := by
  rw [intLiteral, if_neg (by omega), Int.natAbs_natCast]

theorem natural_readsAs {n : Nat} (hn : n < Nat.pow 2 64) : ReadsAs natural (.int n) n := by
  rintro gap _ rest hgap rfl hrest
  have hnumber := number_of_digits hn hrest
  rw [natural, List.append_assoc, skipGaps_append hgap, intLiteral_natCast]
  cases hds : Nat.toDigits 10 n with
  | nil => exact absurd hds Nat.toDigits_ne_nil
  | cons d ds =>
      have hd : d.isDigit = true :=
        Nat.isDigit_of_mem_toDigits (by decide) (by decide) (hds ▸ List.mem_cons_self)
      have hgapd : isGap d = false := by
        rw [Bool.eq_false_iff]
        intro hgapd
        simp only [isGap, Bool.or_eq_true, decide_eq_true_eq] at hgapd
        rcases hgapd with ((rfl | rfl) | rfl) | rfl <;> exact absurd hd (by decide)
      have hstart : startsWithDigit (d :: (ds ++ rest)) = true := hd
      rw [hds] at hnumber
      rw [List.cons_append] at hnumber ⊢
      rw [skipGaps_cons hgapd, hstart, Bool.or_true, if_pos rfl, run_bind_of_ok hnumber]
      dsimp only
      rw [if_pos (Int.natCast_nonneg n), Int.toNat_natCast]
      rfl

theorem variant_readsAs {α : Type} {names : List String} {variant? : String → Option α}
    {name : String} {a : α} (h : variant? name = some a) :
    ReadsAs (variant names variant?) (.str name) a := by
  rintro gap _ rest hgap rfl -
  rw [variant, skipGaps_text hgap]
  refine (run_bind_of_ok (text_of_literal name rest) _).trans ?_
  rw [known, h]
  rfl

/-! ### Lists -/

theorem joinWith_cons (separator piece : List Char) (pieces : List (List Char)) :
    joinWith separator (piece :: pieces) = piece ++ pieces.flatMap (separator ++ ·) := by
  induction pieces generalizing piece with
  | nil => exact (List.append_nil piece).symm
  | cons next pieces ih =>
      have hjoin : joinWith separator (piece :: next :: pieces)
          = piece ++ separator ++ joinWith separator (next :: pieces) := rfl
      rw [hjoin, ih, List.flatMap_cons, List.append_assoc, List.append_assoc]

theorem framed_nil (opening closing : Char) (before after rest : List Char) :
    framed opening closing before after [] ++ rest
      = opening :: ((before ++ after) ++ closing :: rest) := by
  simp [framed, joinWith]

theorem framed_cons (opening closing : Char) (before after piece rest : List Char)
    (pieces : List (List Char)) :
    framed opening closing before after (piece :: pieces) ++ rest
      = opening :: (before ++ piece
        ++ (pieces.flatMap ((',' :: before) ++ ·) ++ (after ++ closing :: rest))) := by
  simp [framed, joinWith_cons]

theorem gap_append {cs cs' : List Char} (h : Gap cs) (h' : Gap cs') : Gap (cs ++ cs') := by
  intro c hc
  rcases List.mem_append.mp hc with hc | hc
  · exact h c hc
  · exact h' c hc

/-- That every text of a value starts with something that is neither a gap nor a closing bracket. -/
def Opens (value : Json) : Prop :=
  ∀ cs, Spells value cs → ∃ c rest, cs = c :: rest ∧ isGap c = false ∧ c ≠ ']'

theorem opens_str (s : String) : Opens (.str s) := by
  rintro _ rfl
  exact ⟨_, _, rfl, rfl, by decide⟩

theorem opens_dict (entries : List (String × Json)) : Opens (.dict entries) := by
  rintro _ ⟨before, after, pieces, -, -, -, rfl⟩
  exact ⟨_, _, rfl, rfl, by decide⟩

/-- After a piece comes a comma, or a gap and the closing bracket. -/
theorem endsNumber_more {after : List Char} (hafter : Gap after) (before : List Char)
    (pieces : List (List Char)) {closing : Char} (hclosing : closing = ']' ∨ closing = '\x7d')
    (rest : List Char) :
    EndsNumber (pieces.flatMap ((',' :: before) ++ ·) ++ (after ++ closing :: rest)) := by
  cases pieces with
  | nil =>
      show EndsNumber (after ++ closing :: rest)
      exact endsNumber_append hafter (endsNumber_cons (Or.inr hclosing) rest)
  | cons piece pieces => exact endsNumber_cons (Or.inl rfl) _

section Lists

variable {α : Type} {read : Read α} {value : Json} {a : α} {before after cs rest : List Char}

theorem item?_at_end (hafter : Gap after) (read : Read α) (first : Bool) (rest : List Char) :
    item? read first (after ++ ']' :: rest) = .ok (none, ']' :: rest) := by
  have hend : toItem first (after ++ ']' :: rest) = .ok (false, ']' :: rest) := by
    rw [toItem, skipGaps_append hafter]
    rfl
  rw [item?, run_bind_of_ok hend]
  rfl

theorem item?_first (hread : ReadsAs read value a) (hopens : Opens value) (hbefore : Gap before)
    (hcs : Spells value cs) (hrest : EndsNumber rest) :
    item? read true (before ++ cs ++ rest) = .ok (some a, rest) := by
  have hvalue := hread [] cs rest gap_nil hcs hrest
  obtain ⟨c, cs, rfl, hc, hclose⟩ := hopens cs hcs
  have hitem : toItem true (before ++ (c :: cs) ++ rest) = .ok (true, c :: cs ++ rest) := by
    rw [toItem, List.append_assoc, skipGaps_append hbefore, List.cons_append, skipGaps_cons hc]
    split
    · simp_all
    · simp_all
    · simp_all
  rw [item?, run_bind_of_ok hitem]
  exact run_map_of_ok hvalue some

theorem toItem_comma (cs : List Char) : toItem false (',' :: cs) =
    match skipGaps cs with
    | [] => .error .endInValue
    | ']' :: _ => .error .trailingComma
    | rest => .ok (true, rest) :=
  rfl

theorem item?_more (hread : ReadsAs read value a) (hopens : Opens value) (hbefore : Gap before)
    (hcs : Spells value cs) (hrest : EndsNumber rest) :
    item? read false ((',' :: before) ++ cs ++ rest) = .ok (some a, rest) := by
  have hvalue := hread [] cs rest gap_nil hcs hrest
  obtain ⟨c, cs, rfl, hc, hclose⟩ := hopens cs hcs
  have hitem : toItem false ((',' :: before) ++ (c :: cs) ++ rest)
      = .ok (true, c :: cs ++ rest) := by
    have hskip : skipGaps (before ++ (c :: cs) ++ rest) = c :: cs ++ rest := by
      rw [List.append_assoc, skipGaps_append hbefore, List.cons_append, skipGaps_cons hc]
    rw [List.cons_append, List.cons_append, toItem_comma, hskip]
    split
    · simp_all
    · simp_all
    · rfl
  rw [item?, run_bind_of_ok hitem]
  exact run_map_of_ok hvalue some

/-- That a value is read as an item of a list. -/
def ReadsAsItem (read : Read α) (value : Json) (a : α) : Prop :=
  ReadsAs read value a ∧ Opens value

variable {values : List Json} {as : List α}

/-- After the first item each one has a comma in front. -/
theorem itemsFrom_more (hbefore : Gap before) (hafter : Gap after)
    (hitems : List.Forall₂ (ReadsAsItem read) values as) {pieces : List (List Char)}
    (hpieces : SpellsItems values pieces) {fuel : Nat} (hfuel : as.length < fuel)
    (rest : List Char) :
    itemsFrom read fuel false (pieces.flatMap ((',' :: before) ++ ·) ++ (after ++ ']' :: rest))
      = .ok (as, ']' :: rest) := by
  induction hitems generalizing pieces fuel with
  | nil =>
      obtain ⟨fuel, rfl⟩ := Nat.exists_eq_add_one.mpr hfuel
      obtain rfl : pieces = [] := hpieces
      rw [List.flatMap_nil, List.nil_append, itemsFrom,
        run_bind_of_ok (item?_at_end hafter read _ rest)]
      rfl
  | @cons value a values as hfirst _ ih =>
      obtain ⟨fuel, rfl⟩ := Nat.exists_eq_add_one.mpr (Nat.zero_lt_of_lt hfuel)
      obtain ⟨cs, pieces, hcs, hpieces, rfl⟩ := hpieces
      have hitem := item?_more hfirst.1 hfirst.2 hbefore hcs
        (endsNumber_more hafter before pieces (Or.inl rfl) rest)
      have hmore := ih hpieces (Nat.lt_of_succ_lt_succ hfuel)
      rw [List.flatMap_cons, List.append_assoc, itemsFrom, run_bind_of_ok hitem]
      exact run_map_of_ok hmore (a :: ·)

theorem length_of_spellsItems {values : List Json} {pieces : List (List Char)}
    (h : SpellsItems values pieces) : pieces.length = values.length := by
  induction values generalizing pieces with
  | nil =>
      obtain rfl : pieces = [] := h
      rfl
  | cons value values ih =>
      obtain ⟨cs, pieces, -, hpieces, rfl⟩ := h
      rw [List.length_cons, List.length_cons, ih hpieces]

theorem closeList_of_gap (hgap : Gap after) (rest : List Char) :
    closeList (after ++ ']' :: rest) = .ok ((), rest) := by
  rw [closeList, skipGaps_append hgap]
  rfl

theorem items_framed (hitems : List.Forall₂ (ReadsAsItem read) values as) (hbefore : Gap before)
    (hafter : Gap after) {pieces : List (List Char)} (hpieces : SpellsItems values pieces)
    (rest : List Char) :
    ∃ cs, framed '[' ']' before after pieces ++ rest = '[' :: cs ∧
      items read cs = .ok (as, ']' :: rest) := by
  cases hitems with
  | nil =>
      obtain rfl : pieces = [] := hpieces
      refine ⟨_, framed_nil _ _ _ _ _, ?_⟩
      have hend := item?_at_end (gap_append hbefore hafter) read true rest
      rw [items, itemsFrom, run_bind_of_ok hend]
      rfl
  | @cons value a values as hfirst hitems =>
      obtain ⟨cs, pieces, hcs, hpieces, rfl⟩ := hpieces
      refine ⟨_, framed_cons _ _ _ _ _ _ _, ?_⟩
      have hitem := item?_first hfirst.1 hfirst.2 hbefore hcs
        (endsNumber_more hafter before pieces (Or.inl rfl) rest)
      have hfuel : ∀ front : List Char, as.length < (front ++ (pieces.flatMap ((',' :: before) ++ ·)
          ++ (after ++ ']' :: rest))).length := by
        intro front
        have hlen := (length_of_spellsItems hpieces).trans hitems.length_eq
        have hlen' := length_le_flatMap (f := ((',' :: before) ++ ·))
          (fun _ => List.cons_ne_nil _ _) pieces
        simp only [List.length_append, List.length_cons] at hlen hlen' ⊢
        omega
      have hmore := itemsFrom_more hbefore hafter hitems hpieces (hfuel (before ++ cs)) rest
      rw [items, itemsFrom, run_bind_of_ok hitem]
      exact run_map_of_ok hmore (a :: ·)

theorem listOf_readsAs (hitems : List.Forall₂ (ReadsAsItem read) values as) :
    ReadsAs (listOf read) (.list values) as := by
  rintro gap _ rest hgap ⟨before, after, pieces, hbefore, hafter, hpieces, rfl⟩ -
  obtain ⟨cs, hframed, hall⟩ := items_framed hitems hbefore hafter hpieces rest
  rw [listOf, List.append_assoc, skipGaps_append hgap, hframed, skipGaps_cons rfl]
  refine (run_bind_of_ok hall _).trans ?_
  exact run_map_of_ok (closeList_of_gap gap_nil rest) fun _ => as

end Lists

end NameLint.Json

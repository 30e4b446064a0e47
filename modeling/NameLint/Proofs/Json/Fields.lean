/-
Records are read from every spelling of their dictionaries.

The reader of a record goes through the entries of a dictionary with what it has of the
record so far.  `Takes` says what one entry does to it, wherever the entry stands and
however it is spelled, and `Builds` follows it through all entries.  What remains for a
kind of records is to go through its fields.
-/
import NameLint.Proofs.Json.Spelling

namespace NameLint.Json

variable {σ α : Type} {step : String → σ → Read σ} {start built : σ}
  {before after rest : List Char}

/-! ### Keys -/

theorem key?_at_end (hafter : Gap after) (first : Bool) (rest : List Char) :
    key? first (after ++ '\x7d' :: rest) = .ok (none, '\x7d' :: rest) := by
  rw [key?, skipGaps_append hafter]
  rfl

theorem key?_first (hbefore : Gap before) (key : String) (rest : List Char) :
    key? true (before ++ textLiteral key ++ rest) = .ok (some key, rest) := by
  rw [key?, skipGaps_text hbefore]
  exact run_map_of_ok (text_of_literal key rest) some

theorem key?_comma (cs : List Char) : key? false (',' :: cs) =
    match skipGaps cs with
    | [] => .error .endInValue
    | '"' :: rest => (some <$> text) rest
    | '\x7d' :: _ => .error .trailingComma
    | _ => .error .keyNotText :=
  rfl

theorem key?_more (hbefore : Gap before) (key : String) (rest : List Char) :
    key? false ((',' :: before) ++ textLiteral key ++ rest) = .ok (some key, rest) := by
  rw [List.cons_append, List.cons_append, key?_comma, skipGaps_text hbefore]
  exact run_map_of_ok (text_of_literal key rest) some

/-! ### Entries -/

/-- That reading an entry turns one state of a record into another. -/
def Takes (step : String → σ → Read σ) (entry : String × Json) (s t : σ) : Prop :=
  ∀ gap cs rest, Gap gap → Spells entry.2 cs → EndsNumber rest →
    step entry.1 s (':' :: gap ++ cs ++ rest) = .ok (t, rest)

/-- That reading entries one after another turns one state of a record into another. -/
def Builds (step : String → σ → Read σ) : List (String × Json) → σ → σ → Prop
  | [], s, t => s = t
  | entry :: entries, s, t => ∃ u, Takes step entry s u ∧ Builds step entries u t

/-- A field that is given once is put into the record. -/
theorem takes_field {entry : String × Json} {s : σ} {current : Option α} {read : Read α}
    {put : α → σ} {a : α} (hstep : step entry.1 s = fieldOnce entry.1 current read put)
    (hcurrent : current = none) (hread : ReadsAs read entry.2 a) :
    Takes step entry s (put a) := by
  intro gap cs rest hgap hcs hrest
  subst hcurrent
  have hcolon : colon (':' :: gap ++ cs ++ rest) = .ok ((), gap ++ cs ++ rest) := rfl
  rw [hstep]
  show (colon >>= fun _ => put <$> read) _ = _
  rw [run_bind_of_ok hcolon]
  exact run_map_of_ok (hread gap cs rest hgap hcs hrest) put

/-- One entry is read, and then the others. -/
theorem entriesFrom_step {entry : String × Json} {s t : σ} (htakes : Takes step entry s t)
    {first : Bool} {front gap cs : List Char} (hgap : Gap gap) (hcs : Spells entry.2 cs)
    (hrest : EndsNumber rest) (hkey : ∀ tail, key? first (front ++ textLiteral entry.1 ++ tail)
      = .ok (some entry.1, tail)) (fuel : Nat) :
    entriesFrom step (fuel + 1) first s (front ++ (textLiteral entry.1 ++ ':' :: gap ++ cs) ++ rest)
      = entriesFrom step fuel false t rest := by
  have htext : front ++ (textLiteral entry.1 ++ ':' :: gap ++ cs) ++ rest
      = front ++ textLiteral entry.1 ++ (':' :: gap ++ cs ++ rest) := by
    simp only [List.append_assoc, List.cons_append]
  rw [htext, entriesFrom, run_bind_of_ok (hkey _)]
  exact run_bind_of_ok (htakes gap cs rest hgap hcs hrest) _

theorem entriesFrom_at_end (hafter : Gap after) (first : Bool) (s : σ) (rest : List Char)
    (fuel : Nat) :
    entriesFrom step (fuel + 1) first s (after ++ '\x7d' :: rest) = .ok (s, '\x7d' :: rest) := by
  rw [entriesFrom, run_bind_of_ok (key?_at_end hafter first rest)]
  rfl

/-- After the first entry each one has a comma in front. -/
theorem entriesFrom_more (hbefore : Gap before) (hafter : Gap after)
    {entries : List (String × Json)} (hbuilds : Builds step entries start built)
    {pieces : List (List Char)} (hpieces : SpellsEntries entries pieces) {fuel : Nat}
    (hfuel : entries.length < fuel) :
    entriesFrom step fuel false start
        (pieces.flatMap ((',' :: before) ++ ·) ++ (after ++ '\x7d' :: rest))
      = .ok (built, '\x7d' :: rest) := by
  induction entries generalizing start pieces fuel with
  | nil =>
      obtain ⟨fuel, rfl⟩ := Nat.exists_eq_add_one.mpr hfuel
      obtain rfl : pieces = [] := hpieces
      obtain rfl : start = built := hbuilds
      exact entriesFrom_at_end hafter false start rest fuel
  | cons entry entries ih =>
      obtain ⟨fuel, rfl⟩ := Nat.exists_eq_add_one.mpr (Nat.zero_lt_of_lt hfuel)
      obtain ⟨next, htakes, hbuilds⟩ := hbuilds
      obtain ⟨gap, cs, pieces, hgap, hcs, hpieces, rfl⟩ := hpieces
      have hends := endsNumber_more hafter before pieces (Or.inr rfl) rest
      rw [List.flatMap_cons, List.append_assoc,
        entriesFrom_step htakes hgap hcs hends (key?_more hbefore entry.1)]
      exact ih hbuilds hpieces (Nat.lt_of_succ_lt_succ hfuel)

theorem length_of_spellsEntries {entries : List (String × Json)} {pieces : List (List Char)}
    (h : SpellsEntries entries pieces) : pieces.length = entries.length := by
  induction entries generalizing pieces with
  | nil =>
      obtain rfl : pieces = [] := h
      rfl
  | cons entry entries ih =>
      obtain ⟨gap, cs, pieces, -, -, hpieces, rfl⟩ := h
      rw [List.length_cons, List.length_cons, ih hpieces]

theorem entries_framed {es : List (String × Json)} (hbuilds : Builds step es start built)
    (hbefore : Gap before) (hafter : Gap after) {pieces : List (List Char)}
    (hpieces : SpellsEntries es pieces) (rest : List Char) :
    ∃ cs, framed '\x7b' '\x7d' before after pieces ++ rest = '\x7b' :: cs ∧
      entries step start cs = .ok (built, '\x7d' :: rest) := by
  cases es with
  | nil =>
      obtain rfl : pieces = [] := hpieces
      obtain rfl : start = built := hbuilds
      have hgap := gap_append hbefore hafter
      exact ⟨_, framed_nil _ _ _ _ _, entriesFrom_at_end hgap true start rest _⟩
  | cons entry es =>
      obtain ⟨next, htakes, hbuilds⟩ := hbuilds
      obtain ⟨gap, cs, pieces, hgap, hcs, hpieces, rfl⟩ := hpieces
      refine ⟨_, framed_cons _ _ _ _ _ _ _, ?_⟩
      have hends := endsNumber_more hafter before pieces (Or.inr rfl) rest
      rw [entries, entriesFrom_step htakes hgap hcs hends (key?_first hbefore entry.1)]
      refine entriesFrom_more hbefore hafter hbuilds hpieces ?_
      have hlen := length_of_spellsEntries hpieces
      have hlen' := length_le_flatMap (f := ((',' :: before) ++ ·))
        (fun _ => List.cons_ne_nil _ _) pieces
      simp only [List.length_append, List.length_cons] at hlen hlen' ⊢
      omega

/-! ### Records -/

theorem closeDict_of_gap (hgap : Gap after) (rest : List Char) :
    closeDict (after ++ '\x7d' :: rest) = .ok ((), rest) := by
  rw [closeDict, skipGaps_append hgap]
  rfl

/-- A record is read as what its entries build. -/
theorem record_readsAs {name : String} {ofList : Read α} {finish : σ → Read α} {a : α}
    {es : List (String × Json)} (hbuilds : Builds step es start built)
    (hfinish : ∀ cs, finish built cs = .ok (a, cs)) :
    ReadsAs (record name ofList (entries step start >>= finish)) (.dict es) a := by
  rintro gap _ rest hgap ⟨before, after, pieces, hbefore, hafter, hpieces, rfl⟩ -
  obtain ⟨cs, hframed, hentries⟩ := entries_framed hbuilds hbefore hafter hpieces rest
  have hdict : (entries step start >>= finish) cs = .ok (a, '\x7d' :: rest) :=
    (run_bind_of_ok hentries _).trans (hfinish _)
  rw [record, List.append_assoc, skipGaps_append hgap, hframed, skipGaps_cons rfl]
  refine (run_bind_of_ok hdict _).trans ?_
  exact run_map_of_ok (closeDict_of_gap gap_nil rest) fun _ => a

/-! ### Values that may be absent, and whole documents -/

theorem optional_readsAs {read : Read α} {items : List Json} {a : α}
    (h : ReadsAs read (.list items) a) : ReadsAs (optional read) (.list items) (some a) := by
  intro gap cs rest hgap hcs hrest
  have hread := h [] cs rest gap_nil hcs hrest
  obtain ⟨before, after, pieces, -, -, -, rfl⟩ := hcs
  rw [optional, List.append_assoc, skipGaps_append hgap, framed, List.cons_append, List.cons_append,
    List.cons_append, List.cons_append, skipGaps_cons rfl]
  exact run_map_of_ok hread some

/-- A document is read as its value, whichever spelling of it is taken. -/
theorem document_of_readsAs {read : Read α} {value : Json} {a : α} (h : ReadsAs read value a)
    {cs : List Char} (hcs : Spells value cs) : document read (String.ofList cs) = .ok a := by
  have hread := h [] cs [] gap_nil hcs endsNumber_nil
  rw [List.nil_append, List.append_nil] at hread
  rw [document, String.toList_ofList]
  exact bind_eq_ok.mpr ⟨(a, []), hread, rfl⟩

end NameLint.Json

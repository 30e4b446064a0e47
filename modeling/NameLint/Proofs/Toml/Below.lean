/-
Whole numbers of a TOML document are bounded.

They have 64 bits with a sign, so they fit in a document value.  Tables grow from
statements that are far apart, which makes this an invariant of the draft and not of one
reader: `Keeps` says that an edit of a table leaves it with values that fit, and
`within_keeps` that this does not depend on how deep the table lies.
-/
import NameLint.Proofs.Json.Below
import NameLint.Toml.Document

namespace NameLint.Toml

variable {α β : Type} {P : α → Prop} {Q : β → Prop} {read : Read α}

/-! ### Values -/

/-- That all whole numbers of a value have 64 bits. -/
def Value.Fits (v : Value) : Prop :=
  v.toJson.Below (Nat.pow 2 64)

theorem itemsToJson_eq_map (items : List Value) : itemsToJson items = items.map Value.toJson := by
  induction items with
  | nil => rfl
  | cons v rest ih => rw [itemsToJson, ih, List.map_cons]

theorem entriesToJson_eq_map (entries : List (String × Value)) :
    entriesToJson entries = entries.map fun e => (e.1, e.2.toJson) := by
  induction entries with
  | nil => rfl
  | cons e rest ih => rw [entriesToJson, ih, List.map_cons]

theorem fits_array_iff {items : List Value} : (Value.array items).Fits ↔ ∀ v ∈ items, v.Fits := by
  rw [Value.Fits, Value.toJson, Json.below_list_iff, itemsToJson_eq_map, List.forall_mem_map]
  rfl

theorem fits_table_iff {entries : List (String × Value)} :
    (Value.table entries).Fits ↔ ∀ e ∈ entries, e.2.Fits := by
  rw [Value.Fits, Value.toJson, Json.below_dict_iff, entriesToJson_eq_map, List.forall_mem_map]
  rfl

/-! ### Tables under construction -/

/-- That the value an item stands for fits. -/
def Item.Fits (item : Item) : Prop :=
  item.toValue.Fits

/-- That all values of a table under construction fit. -/
def Entries.Fits (entries : Entries) : Prop :=
  ∀ e ∈ entries, e.2.Fits

theorem entryValues_eq_map (entries : Entries) :
    entryValues entries = entries.map fun e => (e.1, e.2.toValue) := by
  induction entries with
  | nil => rfl
  | cons e rest ih => rw [entryValues, ih, List.map_cons]

theorem elementValues_eq_map (elements : List Entries) :
    elementValues elements = elements.map fun entries => .table (entryValues entries) := by
  induction elements with
  | nil => rfl
  | cons entries rest ih => rw [elementValues, ih, List.map_cons]

@[simp]
theorem fits_entryValues_iff {entries : Entries} :
    (Value.table (entryValues entries)).Fits ↔ Entries.Fits entries := by
  rw [fits_table_iff, entryValues_eq_map, List.forall_mem_map]
  rfl

theorem Item.fits_table_iff {origin : Origin} {entries : Entries} :
    (Item.table origin entries).Fits ↔ Entries.Fits entries := by
  rw [Item.Fits, Item.toValue, fits_entryValues_iff]

theorem Item.fits_tables_iff {elements : List Entries} :
    (Item.tables elements).Fits ↔ ∀ entries ∈ elements, Entries.Fits entries := by
  rw [Item.Fits, Item.toValue, fits_array_iff, elementValues_eq_map, List.forall_mem_map]
  simp only [fits_entryValues_iff]

namespace Entries

variable {entries : Entries} {key : String} {item : Item}

theorem fits_nil : Fits [] := by
  intro e he
  cases he

theorem Fits.concat (h : Fits entries) (hitem : item.Fits) : Fits (entries ++ [(key, item)]) :=
  List.forall_mem_append.mpr ⟨h, List.forall_mem_singleton.mpr hitem⟩

theorem Fits.put (h : Fits entries) (hitem : item.Fits) : Fits (putEntry key item entries) :=
  Json.forall_mem_putEntry hitem h

theorem Fits.lookup (h : Fits entries) (hlookup : entries.lookup key = some item) : item.Fits := by
  obtain ⟨before, after, rfl, -⟩ := List.lookup_eq_some_iff.mp hlookup
  exact h (key, item) (by simp)

end Entries

/-- That an edit leaves a table with values that fit, and that `P` holds of what else it gives. -/
def Keeps (P : α → Prop) (edit : Origin → Entries → Option (Entries × α)) : Prop :=
  ∀ here entries, Entries.Fits entries →
    ∀ edited a, edit here entries = some (edited, a) → Entries.Fits edited ∧ P a

/-- An edit at the end of a path keeps what it keeps at the end of any other. -/
theorem within_keeps {edit : Origin → Entries → Option (Entries × α)} (h : Keeps P edit)
    (made : Origin) (path : List String) : Keeps P (within made edit path) := by
  induction path with
  | nil => exact h
  | cons key path ih =>
      intro here entries hentries edited a hedit
      -- The way goes on in a new table, in one that is there or in the last of a list.
      unfold within at hedit
      split at hedit
      · obtain ⟨⟨inner, b⟩, hinner, hrest⟩ := Option.bind_eq_some_iff.mp hedit
        cases hrest
        obtain ⟨hfits, ha⟩ := ih made [] Entries.fits_nil inner _ hinner
        exact ⟨hentries.concat (Item.fits_table_iff.mpr hfits), ha⟩
      · cases hedit
      · rename_i origin inner hlookup
        split at hedit
        · cases hedit
        · obtain ⟨⟨inner', b⟩, hinner, hrest⟩ := Option.bind_eq_some_iff.mp hedit
          cases hrest
          have htable := Item.fits_table_iff.mp (hentries.lookup hlookup)
          obtain ⟨hfits, ha⟩ := ih origin inner htable inner' _ hinner
          exact ⟨hentries.put (Item.fits_table_iff.mpr hfits), ha⟩
      · rename_i elements hlookup
        split at hedit
        · cases hedit
        · rename_i last hlast
          obtain ⟨⟨last', b⟩, hinner, hrest⟩ := Option.bind_eq_some_iff.mp hedit
          cases hrest
          have htables := Item.fits_tables_iff.mp (hentries.lookup hlookup)
          have htable := htables last (List.mem_of_getLast? hlast)
          obtain ⟨hfits, ha⟩ := ih .header last htable last' _ hinner
          refine ⟨hentries.put (Item.fits_tables_iff.mpr ?_), ha⟩
          refine List.forall_mem_append.mpr ⟨fun es hes => ?_, List.forall_mem_singleton.mpr hfits⟩
          exact htables es ((List.dropLast_sublist elements).subset hes)

theorem assign_keeps {item : Item} (hitem : item.Fits) (isDotted : Bool) (key : String) :
    Keeps (fun _ => True) (assign isDotted key item) := by
  intro here entries hentries edited a hedit
  unfold assign at hedit
  split at hedit
  · cases hedit
    exact ⟨hentries.concat hitem, trivial⟩
  · cases hedit

theorem fits_assigned {v : Value} {path : List String} {key : String} {entries edited : Entries}
    (hv : v.Fits) (hentries : Entries.Fits entries)
    (h : assigned path key (.value v) entries = some edited) : Entries.Fits edited := by
  obtain ⟨⟨result, a⟩, hresult, rfl⟩ := Option.map_eq_some_iff.mp h
  have hitem : (Item.value v).Fits := hv
  exact (within_keeps (assign_keeps hitem _ key) _ path _ _ hentries _ _ hresult).1

/-! ### Readers -/

/-- That all results of a reading step have a property. -/
def Ensures (read : Read α) (P : α → Prop) : Prop :=
  ∀ cs a rest, read cs = some (a, rest) → P a

theorem ensures_pure {a : α} (h : P a) : Ensures (pure a) P := by
  rintro cs b rest hb
  cases hb
  exact h

theorem ensures_bind {k : α → Read β} (hread : Ensures read P) (hk : ∀ a, P a → Ensures (k a) Q) :
    Ensures (read >>= k) Q := by
  intro cs b rest h
  obtain ⟨⟨a, left⟩, ha, hb⟩ := Option.bind_eq_some_iff.mp h
  exact hk a (hread cs a left ha) left b rest hb

theorem ensures_then {k : α → Read β} (read : Read α) (hk : ∀ a, Ensures (k a) Q) :
    Ensures (read >>= k) Q :=
  ensures_bind (P := fun _ => True) (fun _ _ _ _ => trivial) fun a _ => hk a

theorem ensures_map {f : α → β} (hread : Ensures read P) (hf : ∀ a, P a → Q (f a)) :
    Ensures (f <$> read) Q :=
  ensures_bind hread fun a ha => ensures_pure (hf a ha)

theorem ensures_map_of_forall {f : α → β} (read : Read α) (hf : ∀ a, Q (f a)) :
    Ensures (f <$> read) Q :=
  ensures_then read fun a => ensures_pure (hf a)

/-! ### Numbers and times -/

theorem fits_of_integer? {negative : Bool} {n : Nat} {v : Value}
    (h : integer? negative n = some v) : v.Fits := by
  have hbounds : (Nat.pow 2 63 : Int) < (Nat.pow 2 64 : Nat) := by decide
  rw [integer?, Option.ite_none_right_eq_some] at h
  obtain ⟨⟨-, hlt⟩, hv⟩ := h
  obtain rfl := Option.some.inj hv
  exact .int (Int.lt_trans hlt hbounds)

theorem fits_of_float? {negative : Bool} {ds : List Nat} {exponent : Int} {v : Value}
    (h : float? negative ds exponent = some v) : v.Fits := by
  unfold float? at h
  split at h
  · cases h
    exact .float _
  · split at h
    · cases h
      exact .null
    · cases h

theorem ensures_lift {o : Option α} (h : ∀ a, o = some a → P a) :
    Ensures (StateT.lift o : Read α) P := by
  intro cs a rest hrun
  obtain ⟨b, hb, heq⟩ := Option.bind_eq_some_iff.mp hrun
  cases heq
  exact h a hb

theorem ensures_unsigned (negative : Bool) : Ensures (unsigned negative) Value.Fits := by
  refine ensures_then _ fun whole => ensures_then _ fun fraction => ?_
  refine ensures_then _ fun exponent => ?_
  split
  · exact ensures_lift fun v hv => fits_of_integer? hv
  · exact ensures_lift fun v hv => fits_of_float? hv

theorem ensures_based (base : Nat) : Ensures (based base) Value.Fits :=
  ensures_then _ fun _ => ensures_lift fun _ hv => fits_of_integer? hv

theorem ensures_number : Ensures number Value.Fits := by
  intro cs v rest h
  unfold number at h
  split at h
  · exact ensures_based 16 _ v rest h
  · exact ensures_based 8 _ v rest h
  · exact ensures_based 2 _ v rest h
  · split at h
    · cases h
      exact .null
    · cases h
      exact .null
    · exact ensures_unsigned _ _ v rest h

theorem fits_datetime (text : List Char) : (Value.datetime (String.ofList text)).Fits := by
  simp [Value.Fits, Value.toJson]

theorem ensures_numberOrTime : Ensures numberOrTime Value.Fits := by
  intro cs v rest h
  unfold numberOrTime at h
  split at h
  · exact ensures_map_of_forall dateAndTime fits_datetime _ v rest h
  · split at h
    · exact ensures_map_of_forall time fits_datetime _ v rest h
    · exact ensures_number _ v rest h

/-! ### Arrays and inline tables -/

theorem ensures_arrayItems {read : Read Value} (hread : Ensures read Value.Fits) (fuel : Nat) :
    Ensures (arrayItems read fuel) (∀ v ∈ ·, v.Fits) := by
  induction fuel with
  | zero => rintro cs items rest ⟨⟩
  | succ fuel ih =>
      refine ensures_then _ fun _ cs items rest h => ?_
      split at h
      · cases h
        simp
      · refine ensures_bind (Q := (∀ v ∈ ·, v.Fits)) hread (fun v hv => ?_) _ items rest h
        refine ensures_then _ fun _ cs items rest h => ?_
        split at h
        · refine ensures_map (Q := (∀ v ∈ ·, v.Fits)) ih (fun items hitems => ?_) _ items rest h
          exact List.forall_mem_cons.mpr ⟨hv, hitems⟩
        · cases h
          exact List.forall_mem_singleton.mpr hv
        · cases h

theorem ensures_inlineEntry {read : Read Value} (hread : Ensures read Value.Fits)
    {entries : Entries} (hentries : Entries.Fits entries) :
    Ensures (inlineEntry read entries) Entries.Fits := by
  refine ensures_then _ fun _ => ensures_then _ fun _ => ensures_then _ fun _ => ?_
  refine ensures_bind hread fun v hv => ensures_then _ fun _ => ?_
  exact ensures_lift fun edited h => fits_assigned hv hentries h

theorem ensures_inlineEntries {read : Read Value} (hread : Ensures read Value.Fits) (fuel : Nat)
    {entries : Entries} (hentries : Entries.Fits entries) :
    Ensures (inlineEntries read fuel entries) Entries.Fits := by
  induction fuel generalizing entries with
  | zero => rintro cs edited rest ⟨⟩
  | succ fuel ih =>
      refine ensures_bind (ensures_inlineEntry hread hentries) ?_
      intro entries hentries cs edited rest h
      dsimp only at h
      split at h
      · exact ih hentries _ edited rest h
      · cases h
        exact hentries
      · cases h

theorem ensures_inlineTable {read : Read Value} (hread : Ensures read Value.Fits) :
    Ensures (inlineTable read) Value.Fits := by
  intro cs v rest h
  unfold inlineTable at h
  split at h
  · cases h
    exact fits_table_iff.mpr (by simp)
  · exact ensures_map (ensures_inlineEntries hread _ Entries.fits_nil)
      (fun entries hentries => fits_entryValues_iff.mpr hentries) _ v rest h

/-- A value fits if those inside of it do. -/
theorem ensures_value_of_inner {depth : Nat}
    (hinner : ∀ d, depth = d + 1 → Ensures (value d) Value.Fits) :
    Ensures (value depth) Value.Fits := by
  intro cs v rest h
  unfold value at h
  split at h
  · cases h
  · split at h
    · exact ensures_map_of_forall (text _) (fun s => .str s) _ v rest h
    · split at h
      · split at h
        · cases h
        · exact ensures_map (ensures_arrayItems (hinner _ rfl) _)
            (fun items hitems => fits_array_iff.mpr hitems) _ v rest h
      · split at h
        · split at h
          · cases h
          · exact ensures_inlineTable (hinner _ rfl) _ v rest h
        · split at h
          · exact ensures_then _ (fun _ => ensures_pure (.bool true)) _ v rest h
          · split at h
            · exact ensures_then _ (fun _ => ensures_pure (.bool false)) _ v rest h
            · exact ensures_numberOrTime _ v rest h

theorem ensures_value (depth : Nat) : Ensures (value depth) Value.Fits := by
  induction depth with
  | zero => exact ensures_value_of_inner fun d hd => absurd hd (by omega)
  | succ depth ih =>
      refine ensures_value_of_inner fun d hd => ?_
      obtain rfl : depth = d := by omega
      exact ih

/-! ### Statements -/

/-- That the value of an assignment fits. -/
def Statement.Fits : Statement → Prop
  | assignment _ _ v => v.Fits
  | table _ _ => True
  | element _ _ => True

theorem ensures_header (closing : List Char) {make : List String → String → Statement}
    (hmake : ∀ path key, (make path key).Fits) : Ensures (header closing make) Statement.Fits := by
  refine ensures_then _ fun _ => ensures_then _ fun _ => ensures_then _ fun _ => ?_
  exact ensures_pure (hmake _ _)

theorem ensures_assignment : Ensures assignment Statement.Fits := by
  refine ensures_then _ fun _ => ensures_then _ fun _ => ensures_then _ fun _ => ?_
  refine ensures_bind (ensures_value _) fun v hv => ensures_then _ fun _ => ?_
  exact ensures_pure hv

theorem ensures_statement? : Ensures statement? (∀ s ∈ ·, s.Fits) := by
  have hnone : ∀ s ∈ (none : Option Statement), s.Fits := by simp
  have hsome : ∀ s : Statement, s.Fits → ∀ t ∈ some s, t.Fits := by
    intro s hs t ht
    cases ht
    exact hs
  have htable : ∀ path key, (Statement.table path key).Fits := fun _ _ => trivial
  have helement : ∀ path key, (Statement.element path key).Fits := fun _ _ => trivial
  intro cs s rest h
  unfold statement? at h
  split at h
  · exact ensures_then (Q := (∀ s ∈ ·, s.Fits)) _ (fun _ => ensures_pure hnone) _ s rest h
  · exact ensures_then (Q := (∀ s ∈ ·, s.Fits)) _ (fun _ => ensures_pure hnone) _ s rest h
  · exact ensures_then (Q := (∀ s ∈ ·, s.Fits)) _ (fun _ => ensures_pure hnone) _ s rest h
  · exact ensures_map (Q := (∀ s ∈ ·, s.Fits)) (ensures_header _ helement) hsome _ s rest h
  · exact ensures_map (Q := (∀ s ∈ ·, s.Fits)) (ensures_header _ htable) hsome _ s rest h
  · exact ensures_map (Q := (∀ s ∈ ·, s.Fits)) ensures_assignment hsome _ s rest h

theorem fits_of_statementsFrom {fuel : Nat} {cs : List Char} {ss : List Statement}
    (h : statementsFrom fuel cs = some ss) : ∀ s ∈ ss, s.Fits := by
  induction fuel generalizing cs ss with
  | zero => cases h
  | succ fuel ih =>
      unfold statementsFrom at h
      split at h
      · cases h
        simp
      · obtain ⟨⟨s, left⟩, hs, h⟩ := Option.bind_eq_some_iff.mp h
        obtain ⟨rest, hrest, h⟩ := Option.bind_eq_some_iff.mp h
        cases h
        refine List.forall_mem_append.mpr ⟨fun t ht => ?_, ih hrest⟩
        exact ensures_statement? _ s left hs t (Option.mem_toList.mp ht)

/-! ### Drafts -/

namespace Draft

/-- That all values of a draft fit, in the current table and outside of it. -/
structure Fits (d : Draft) : Prop where
  /-- The document without the current table. -/
  root : Entries.Fits d.root
  /-- The current table. -/
  current : Entries.Fits d.current

theorem pushTable_keeps {table : Entries} (h : Entries.Fits table) (key : String) :
    Keeps (fun _ => True) (pushTable key table) := by
  intro here entries hentries edited a hedit
  cases hedit
  exact ⟨hentries.concat (Item.fits_table_iff.mpr h), trivial⟩

theorem pushElement_keeps {element : Entries} (h : Entries.Fits element) (key : String) :
    Keeps (fun _ => True) (pushElement key element) := by
  intro here entries hentries edited a hedit
  unfold pushElement at hedit
  split at hedit
  · cases hedit
    exact ⟨hentries.concat (Item.fits_tables_iff.mpr (List.forall_mem_singleton.mpr h)), trivial⟩
  · rename_i elements hlookup
    cases hedit
    have htables := Item.fits_tables_iff.mp (hentries.lookup hlookup)
    refine ⟨hentries.put (Item.fits_tables_iff.mpr ?_), trivial⟩
    exact List.forall_mem_append.mpr ⟨htables, List.forall_mem_singleton.mpr h⟩
  · cases hedit

/-- The table that is taken out fits as well as what is left. -/
theorem takeTable_keeps (key : String) : Keeps Entries.Fits (takeTable key) := by
  intro here entries hentries edited a hedit
  unfold takeTable at hedit
  split at hedit
  · cases hedit
    exact ⟨hentries, Entries.fits_nil⟩
  · rename_i inner hlookup
    cases hedit
    refine ⟨fun e he => hentries e (List.mem_filter.mp he).1, ?_⟩
    exact Item.fits_table_iff.mp (hentries.lookup hlookup)
  · cases hedit

theorem fits_closed {d : Draft} (h : d.Fits) {entries : Entries}
    (hclosed : d.closed = some entries) : Entries.Fits entries := by
  unfold closed at hclosed
  split at hclosed
  · cases hclosed
    exact h.current
  · obtain ⟨⟨result, a⟩, hresult, rfl⟩ := Option.map_eq_some_iff.mp hclosed
    exact (within_keeps (pushTable_keeps h.current _) _ _ _ _ h.root _ _ hresult).1
  · obtain ⟨⟨result, a⟩, hresult, rfl⟩ := Option.map_eq_some_iff.mp hclosed
    exact (within_keeps (pushElement_keeps h.current _) _ _ _ _ h.root _ _ hresult).1

/-- One more statement. -/
theorem fits_add {d d' : Draft} {s : Statement} (h : d.Fits) (hs : s.Fits)
    (hadd : d.add s = some d') : d'.Fits := by
  cases s with
  | assignment path key v =>
      obtain ⟨current, hcurrent, hd⟩ := Option.bind_eq_some_iff.mp hadd
      cases hd
      exact ⟨h.root, fits_assigned hs h.current hcurrent⟩
  | table path key =>
      obtain ⟨root, hroot, hd⟩ := Option.bind_eq_some_iff.mp hadd
      obtain ⟨⟨edited, current⟩, hedit, hd⟩ := Option.bind_eq_some_iff.mp hd
      cases hd
      obtain ⟨hedited, hcurrent⟩ :=
        within_keeps (takeTable_keeps key) _ path _ _ (fits_closed h hroot) _ _ hedit
      exact ⟨hedited, hcurrent⟩
  | element path key =>
      obtain ⟨root, hroot, hd⟩ := Option.bind_eq_some_iff.mp hadd
      cases hd
      exact ⟨fits_closed h hroot, Entries.fits_nil⟩

/-- All statements of a document. -/
theorem fits_foldlM {ss : List Statement} {d d' : Draft} (h : d.Fits) (hss : ∀ s ∈ ss, s.Fits)
    (hfold : ss.foldlM add d = some d') : d'.Fits := by
  induction ss generalizing d with
  | nil =>
      cases hfold
      exact h
  | cons s rest ih =>
      obtain ⟨hs, hrest⟩ := List.forall_mem_cons.mp hss
      rw [List.foldlM_cons] at hfold
      obtain ⟨next, hnext, hfold⟩ := Option.bind_eq_some_iff.mp hfold
      exact ih (fits_add h hs hnext) hrest hfold

end Draft

/-- **The whole numbers of a document are below 2^64.** -/
theorem fits_of_parse {source : String} {entries : List (String × Value)}
    (h : parse source = some entries) : ∀ e ∈ entries, e.2.Fits := by
  obtain ⟨ss, hss, h⟩ := Option.bind_eq_some_iff.mp h
  obtain ⟨draft, hdraft, h⟩ := Option.bind_eq_some_iff.mp h
  obtain ⟨root, hroot, h⟩ := Option.bind_eq_some_iff.mp h
  cases h
  have hempty : ({} : Draft).Fits := ⟨Entries.fits_nil, Entries.fits_nil⟩
  have hfits := Draft.fits_foldlM hempty (fits_of_statementsFrom hss) hdraft
  exact fits_table_iff.mp (fits_entryValues_iff.mpr (Draft.fits_closed hfits hroot))

end NameLint.Toml

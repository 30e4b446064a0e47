/-
Whole numbers of a document are bounded.

A whole number is an integer of any size here, but a document holds none that needs more
than 64 bits: digits are gathered as long as their number fits, and what does not fit is
read as a double.  `below_of_parse` says so of whole documents.
-/
import NameLint.Json.Parser
import NameLint.Proofs.Json.Result

namespace NameLint

namespace Json

/-- That all whole numbers of a value are below a bound. -/
inductive Below (bound : Nat) : Json → Prop
  | null : Below bound .null
  | bool (b : Bool) : Below bound (.bool b)
  | int {i : Int} (h : i < bound) : Below bound (.int i)
  | float (x : Binary64) : Below bound (.float x)
  | str (s : String) : Below bound (.str s)
  | list {items : List Json} (h : ∀ x ∈ items, Below bound x) : Below bound (.list items)
  | dict {entries : List (String × Json)} (h : ∀ e ∈ entries, Below bound e.2) :
      Below bound (.dict entries)

variable {bound : Nat}

attribute [simp] Below.null Below.bool Below.float Below.str

@[simp] theorem below_int_iff {i : Int} : Below bound (.int i) ↔ i < bound := by
  constructor
  · intro h
    cases h
    assumption
  · exact .int

@[simp] theorem below_list_iff {items : List Json} :
    Below bound (.list items) ↔ ∀ x ∈ items, Below bound x := by
  constructor
  · intro h
    cases h
    assumption
  · exact .list

@[simp] theorem below_dict_iff {entries : List (String × Json)} :
    Below bound (.dict entries) ↔ ∀ e ∈ entries, Below bound e.2 := by
  constructor
  · intro h
    cases h
    assumption
  · exact .dict

/-- What holds of the values under all keys still holds when one more value is put there. -/
theorem forall_mem_putEntry {α : Type} {P : α → Prop} {key : String} {value : α}
    {entries : List (String × α)} (hvalue : P value) (h : ∀ e ∈ entries, P e.2) :
    ∀ e ∈ putEntry key value entries, P e.2 := by
  induction entries with
  | nil => simpa [putEntry] using hvalue
  | cons e rest ih =>
      obtain ⟨k, v⟩ := e
      obtain ⟨hhead, hrest⟩ := List.forall_mem_cons.mp h
      unfold putEntry
      by_cases hk : k = key
      · rw [if_pos hk]
        exact List.forall_mem_cons.mpr ⟨hvalue, hrest⟩
      · rw [if_neg hk]
        exact List.forall_mem_cons.mpr ⟨hhead, ih hrest⟩

theorem Number.below_toJson {x : Number} (h : x.Below bound) : Json.Below bound x.toJson := by
  cases x with
  | int i => exact .int h
  | float x => exact .float x

/-- A value holds whole numbers of 64 bits only, if those inside of it do. -/
theorem ensures_value_of_inner {depth : Nat}
    (hinner : ∀ d, depth = d + 1 → Ensures (value d) (Below (Nat.pow 2 64))) :
    Ensures (value depth) (Below (Nat.pow 2 64)) := by
  intro cs v rest h
  unfold value at h
  split at h
  · cases h
  · exact ensures_then _ (fun _ => ensures_pure .null) _ v rest h
  · exact ensures_then _ (fun _ => ensures_pure (.bool true)) _ v rest h
  · exact ensures_then _ (fun _ => ensures_pure (.bool false)) _ v rest h
  · exact ensures_map (ensures_trivial text) (fun s _ => .str s) _ v rest h
  · split at h
    · cases h
    · refine ensures_bind (P := (∀ x ∈ ·, Below (Nat.pow 2 64) x))
        (fun cs => ensures_itemsFrom (hinner _ rfl) (cs.length + 1) true cs)
        (fun values hvalues => ?_) _ v rest h
      exact ensures_then _ fun _ => ensures_pure (.list hvalues)
  · split at h
    · cases h
    · refine ensures_bind (P := (∀ e ∈ ·, Below (Nat.pow 2 64) e.2))
        (ensures_entries (by simp) fun key built hbuilt => ?_) (fun built hbuilt => ?_) _ v rest h
      · refine ensures_then _ fun _ => ensures_bind (hinner _ rfl) fun v hv => ?_
        exact ensures_pure (forall_mem_putEntry hv hbuilt)
      · exact ensures_then _ fun _ => ensures_pure (.dict hbuilt)
  · split at h
    · exact ensures_map ensures_number (fun _ => Number.below_toJson) _ v rest h
    · cases h

theorem ensures_value (depth : Nat) : Ensures (value depth) (Below (Nat.pow 2 64)) := by
  induction depth with
  | zero => exact ensures_value_of_inner fun d hd => absurd hd (by omega)
  | succ depth ih =>
      refine ensures_value_of_inner fun d hd => ?_
      obtain rfl : depth = d := by omega
      exact ih

/-- **The whole numbers of a document are below 2^64.** -/
theorem below_of_parse {source : String} {v : Json} (h : parse source = .ok v) :
    v.Below (Nat.pow 2 64) :=
  ensures_document (ensures_value depthLimit) h

end Json

end NameLint

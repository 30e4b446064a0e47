/-
Reading records.

A record stands in a document as a dictionary of its fields, or as a list of them in
order.  Fields it does not know are passed over; a field may be given once; a field that
has to be there is missed in the order of declaration.  A value of the wrong shape is
described by `refuse`, which reads as much of it as the description shows.
-/
import NameLint.Json.Skip

namespace NameLint.Json

/-! ### Single values -/

/-- Ends reading with a defect. -/
def fail {α : Type} (e : ReadError) : Read α := fun _ => .error e

/-- What a number is, in a description. -/
def Number.found : Number → Found
  | int i => .int i
  | float x => .float x

/-- Refuses the value at the front, which is not what was expected. -/
def refuse {α : Type} (expected : String) : Read α := fun cs =>
  match skipGaps cs with
  | [] => .error .endInValue
  | 'n' :: rest => (do word ['u', 'l', 'l']; fail (.invalidType .null expected)) rest
  | 't' :: rest => (do word ['r', 'u', 'e']; fail (.invalidType (.bool true) expected)) rest
  | 'f' :: rest => (do word ['a', 'l', 's', 'e']; fail (.invalidType (.bool false) expected)) rest
  | '"' :: rest => (do let s ← text; fail (.invalidType (.str s) expected)) rest
  | '[' :: _ => .error (.invalidType .list expected)
  | '\x7b' :: _ => .error (.invalidType .dict expected)
  | c :: rest =>
    if c = '-' || c.isDigit then
      (do let n ← number; fail (.invalidType n.found expected)) (c :: rest)
    else .error .expectedValue

/-- Reads a text. -/
def textOr (expected : String) : Read String := fun cs =>
  match skipGaps cs with
  | '"' :: rest => text rest
  | rest => refuse expected rest

/-- Reads a truth value. -/
def truth : Read Bool := fun cs =>
  match skipGaps cs with
  | 't' :: rest => (do word ['r', 'u', 'e']; return true) rest
  | 'f' :: rest => (do word ['a', 'l', 's', 'e']; return false) rest
  | rest => refuse "a boolean" rest

/-- Reads nothing but the absent value. -/
def nothing : Read Unit := fun cs =>
  match skipGaps cs with
  | 'n' :: rest => word ['u', 'l', 'l'] rest
  | rest => refuse "unit" rest

/-- Reads a whole number that is not negative. -/
def natural : Read Nat := fun cs =>
  let rest := skipGaps cs
  if rest.head? = some '-' || startsWithDigit rest then
    (do
      match ← number with
      | .int i => if 0 ≤ i then return i.toNat else fail (.invalidValue (.int i) "usize")
      | .float x => fail (.invalidType (.float x) "usize")) rest
  else refuse "usize" rest

/-- Reads a value that may be absent. -/
def optional {α : Type} (read : Read α) : Read (Option α) := fun cs =>
  match skipGaps cs with
  | [] => (some <$> read) []
  | 'n' :: rest => (do word ['u', 'l', 'l']; return none) rest
  | rest => (some <$> read) rest

/-- Reads a list. -/
def listOf {α : Type} (read : Read α) : Read (List α) := fun cs =>
  match skipGaps cs with
  | '[' :: rest => (do let as ← items read; closeList; return as) rest
  | rest => refuse "a sequence" rest

/-- Finds a variant by its name. -/
def known {α : Type} (names : List String) (variant? : String → Option α) (name : String) :
    Read α :=
  match variant? name with
  | some a => return a
  | none => fail (.unknownVariant name names)

/-- Reads one of several named variants: its name, or a dictionary from its name to nothing. -/
def variant {α : Type} (names : List String) (variant? : String → Option α) : Read α := fun cs =>
  match skipGaps cs with
  | [] => .error .endInValue
  | '"' :: rest => (do known names variant? (← text)) rest
  | '\x7b' :: rest =>
    (do
      let a ← known names variant? (← textOr "variant identifier")
      colon
      nothing
      fun cs =>
        match skipGaps cs with
        | [] => .error .endInDict
        | '\x7d' :: rest => .ok (a, rest)
        | _ => .error .expectedValue) rest
  | _ => .error .expectedValue

/-! ### Records -/

/-- Reads a record from either of its two forms. -/
def record {α : Type} (name : String) (ofList ofDict : Read α) : Read α := fun cs =>
  match skipGaps cs with
  | '[' :: rest => (do let a ← ofList; closeList; return a) rest
  | '\x7b' :: rest => (do let a ← ofDict; closeDict; return a) rest
  | rest => refuse ("struct " ++ name) rest

/-- The wording for a record whose list is too short. -/
def withElements (name : String) (count : Nat) : String :=
  "struct " ++ name ++ " with " ++ String.ofList (Nat.toDigits 10 count) ++ " elements"

/-- Reads the field at the given place of the list form; the list may not end before it. -/
def fieldAt {α : Type} (record : String) (count place : Nat) (read : Read α) : Read α := do
  match ← item? read (place == 0) with
  | some a => return a
  | none => fail (.invalidLength place (withElements record count))

/-- Reads the field at the given place of the list form, or takes its default if the list has
ended. -/
def fieldAtOr {α : Type} (default : α) (place : Nat) (read : Read α) : Read α := do
  return (← item? read (place == 0)).getD default

/-- Reads the value of a field of the dictionary form, which may not have one yet. -/
def fieldOnce {α σ : Type} (field : String) (current : Option α) (read : Read α) (put : α → σ) :
    Read σ := do
  if current.isSome then fail (.duplicateField field)
  colon
  return put (← read)

/-- Passes over the value of a field that the record does not know. -/
def unknownField {σ : Type} (built : σ) : Read σ := do
  colon
  skipValue
  return built

/-- The value of a field that has to be there. -/
def present {α : Type} (field : String) : Option α → Read α
  | some a => return a
  | none => fail (.missingField field)

end NameLint.Json

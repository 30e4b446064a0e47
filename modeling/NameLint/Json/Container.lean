/-
Reading lists and dictionaries, item by item.

A list or dictionary is read by asking for its next item or key until there is none, and
then for its closing bracket.  Whoever reads a record of fixed length from a list stops
asking earlier and leaves it to the closing bracket to refuse what is left over.
-/
import NameLint.Json.Scalar

namespace NameLint.Json

/-! ### Lists -/

/-- Moves to the next item of a list; false at the closing bracket. -/
def toItem (first : Bool) : Read Bool := fun cs =>
  match skipGaps cs with
  | [] => .error .endInList
  | ']' :: rest => .ok (false, ']' :: rest)
  | c :: rest =>
    if first then .ok (true, c :: rest)
    else if c = ',' then
      match skipGaps rest with
      | [] => .error .endInValue
      | ']' :: _ => .error .trailingComma
      | rest => .ok (true, rest)
    else .error .expectedCommaOrBracket

/-- Reads the next item of a list, none at the closing bracket. -/
def item? {α : Type} (read : Read α) (first : Bool) : Read (Option α) := do
  if ← toItem first then return some (← read) else return none

/-- Reads the items up to the closing bracket; each takes at least one of `fuel`. -/
def itemsFrom {α : Type} (read : Read α) : Nat → Bool → Read (List α)
  | 0, _ => throw .endInList
  | fuel + 1, first => do
    match ← item? read first with
    | none => return []
    | some a => return a :: (← itemsFrom read fuel false)

/-- Reads the items up to the closing bracket. -/
def items {α : Type} (read : Read α) : Read (List α) := fun cs =>
  itemsFrom read (cs.length + 1) true cs

/-- Reads the closing bracket of a list. -/
def closeList : Read Unit := fun cs =>
  match skipGaps cs with
  | [] => .error .endInList
  | ']' :: rest => .ok ((), rest)
  | ',' :: rest =>
    .error (if (skipGaps rest).head? = some ']' then .trailingComma else .trailingCharacters)
  | _ => .error .trailingCharacters

/-! ### Dictionaries -/

/-- Reads the next key of a dictionary, none at the closing bracket. -/
def key? (first : Bool) : Read (Option String) := fun cs =>
  match skipGaps cs with
  | [] => .error .endInDict
  | '\x7d' :: rest => .ok (none, '\x7d' :: rest)
  | c :: rest =>
    if first then
      if c = '"' then (some <$> text) rest else .error .keyNotText
    else if c = ',' then
      match skipGaps rest with
      | [] => .error .endInValue
      | '"' :: rest => (some <$> text) rest
      | '\x7d' :: _ => .error .trailingComma
      | _ => .error .keyNotText
    else .error .expectedCommaOrBrace

/-- Reads the colon between a key and its value. -/
def colon : Read Unit := fun cs =>
  match skipGaps cs with
  | [] => .error .endInDict
  | ':' :: rest => .ok ((), rest)
  | _ => .error .expectedColon

/--
Reads the entries up to the closing bracket.  Each key is handed to `step` with what the
entries before it have built; `step` reads the colon and the value.
-/
def entriesFrom {σ : Type} (step : String → σ → Read σ) : Nat → Bool → σ → Read σ
  | 0, _, _ => throw .endInDict
  | fuel + 1, first, built => do
    match ← key? first with
    | none => return built
    | some key => entriesFrom step fuel false (← step key built)

/-- Reads the entries up to the closing bracket, from what `start` has. -/
def entries {σ : Type} (step : String → σ → Read σ) (start : σ) : Read σ := fun cs =>
  entriesFrom step (cs.length + 1) true start cs

/-- Reads the closing bracket of a dictionary. -/
def closeDict : Read Unit := fun cs =>
  match skipGaps cs with
  | [] => .error .endInDict
  | '\x7d' :: rest => .ok ((), rest)
  | ',' :: _ => .error .trailingComma
  | _ => .error .trailingCharacters

/-! ### Whole documents -/

/-- Reads a document that holds one value and nothing after it. -/
def document {α : Type} (read : Read α) (source : String) : Except ReadError α := do
  let (a, rest) ← read source.toList
  if (skipGaps rest).isEmpty then return a else throw .trailingCharacters

end NameLint.Json

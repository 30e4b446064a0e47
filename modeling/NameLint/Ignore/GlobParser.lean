/-
Reading globs.

A glob is read character by character.  The pieces of the alternative that is being read
are at hand, because two stars after a slash take the slash back and stand for it too.
-/
import NameLint.Ignore.Glob

namespace NameLint

/-- Why a text is no glob. -/
inductive GlobError where
  /-- A backslash is the last character. -/
  | danglingEscape
  /-- A closing brace without an opening one. -/
  | unopenedChoice
  /-- An opening brace without a closing one. -/
  | unclosedChoice
  /-- A range whose end lies before its start. -/
  | invalidRange
deriving DecidableEq, Repr

namespace Glob

/-! ### Sets in brackets -/

/-- Reads ranges up to the closing bracket: the ranges and what follows, or nothing if no
bracket closes them.  The ranges read so far are given last first; `first` says that none of
the set has been read, and `pending` that a hyphen after the last range has been. -/
def readRanges (first pending : Bool) (ranges : List (Char × Char)) :
    List Char → Except GlobError (Option (List (Char × Char) × List Char))
  | [] => .ok none
  | c :: cs =>
    if c = ']' ∧ !first then
      .ok (some ((if pending then ('-', '-') :: ranges else ranges).reverse, cs))
    else if c = '-' ∧ !first ∧ !pending then readRanges false true ranges cs
    else
      match pending, ranges with
      | true, (low, _) :: others =>
        if c < low then .error .invalidRange
        else readRanges false false ((low, c) :: others) cs
      | _, _ => readRanges false false ((c, c) :: ranges) cs

/-- Reads a set after its opening bracket, as `readRanges` does. -/
def readSet (cs : List Char) : Except GlobError (Option (Glob × List Char)) := do
  let negated := cs.head? = some '!' || cs.head? = some '^'
  let body := if negated then cs.tail else cs
  match ← readRanges true false [] body with
  | some (ranges, rest) => return some (oneOf negated (ranges.flatMap byteRanges), rest)
  | none => return none

/-- Reading a set leaves less than there was. -/
theorem length_of_readRanges {first pending : Bool} {ranges found : List (Char × Char)}
    {cs rest : List Char} (h : readRanges first pending ranges cs = .ok (some (found, rest))) :
    rest.length < cs.length := by
  fun_induction readRanges first pending ranges cs <;> grind

/-- Reading a set leaves less than there was. -/
theorem length_of_readSet {g : Glob} {cs rest : List Char}
    (h : readSet cs = .ok (some (g, rest))) : rest.length < cs.length + 1 := by
  unfold readSet at h
  simp only [bind, Except.bind] at h
  split at h
  · cases h
  · next found hr =>
    match found, h with
    | some (ranges, left), h =>
      have hl := length_of_readRanges hr
      have hs : left = rest := by simp [pure, Except.pure] at h; exact h.2
      subst hs
      split at hl
      · have := List.length_tail (l := cs)
        omega
      · omega

/-! ### Alternatives -/

/-- An alternation whose closing brace has not been read: its finished alternatives and the
pieces in front of it, each last first. -/
structure OpenChoice where
  /-- The finished alternatives. -/
  branches : List Glob
  /-- The pieces in front of it. -/
  before : List Glob

/-- How far a glob has been read. -/
structure Progress where
  /-- The pieces of the innermost alternative, last first. -/
  pieces : List Glob := []
  /-- The alternations around it, innermost first. -/
  enclosing : List OpenChoice := []
  /-- The character read last. -/
  previous : Option Char := none

namespace Progress

/-- One piece more. -/
def push (p : Progress) (g : Glob) (c : Char) : Progress :=
  { p with pieces := g :: p.pieces, previous := some c }

/-- Opens an alternation. -/
def openChoice (p : Progress) : Progress :=
  { pieces := [], enclosing := ⟨[], p.pieces⟩ :: p.enclosing, previous := some '\x7b' }

/-- Ends an alternative; outside of alternations a comma stands for itself. -/
def nextBranch (p : Progress) : Progress :=
  match p.enclosing with
  | [] => p.push (literal ',') ','
  | c :: outer =>
    { pieces := [], enclosing := ⟨ofPieces p.pieces.reverse :: c.branches, c.before⟩ :: outer,
      previous := some ',' }

/-- Closes an alternation. -/
def closeChoice (p : Progress) : Except GlobError Progress :=
  match p.enclosing with
  | [] => .error .unopenedChoice
  | c :: outer =>
    let choice := ofBranches (ofPieces p.pieces.reverse :: c.branches).reverse
    .ok { pieces := choice :: c.before, enclosing := outer, previous := some '\x7d' }

/-- Two stars that fill no component are two stars. -/
def twoStars (p : Progress) : Progress :=
  { p with pieces := many :: many :: p.pieces, previous := some '*' }

/-- The piece for two stars after a slash, with the piece for the slash taken back. -/
def deepen (p : Progress) (g : Glob) (last : Char) : Progress :=
  match p.pieces with
  | leading :: _ => { p with previous := some last }
  | Glob.inside :: _ => { p with previous := some last }
  | _ :: before => { p with pieces := g :: before, previous := some last }
  | [] => { p with pieces := [g], previous := some last }

/-- Two stars before `next`; the result says whether a slash after them belongs to them. -/
def deepStars (p : Progress) (next : Option Char) : Progress × Bool :=
  if p.pieces.isEmpty then
    match next with
    | none => (p.push leading '*', false)
    | some '/' => (p.push leading '/', true)
    | some _ => (p.twoStars, false)
  else
    let nested := !p.enclosing.isEmpty
    let starts := p.previous = some '/' ||
      (nested && (p.previous = some ',' || p.previous = some '\x7b'))
    if !starts then (p.twoStars, false)
    else
      match next with
      | none => (p.deepen inside '*', false)
      | some '/' => (p.deepen between '/', true)
      | some c =>
        if nested && (c = ',' || c = '\x7d') then (p.deepen inside '*', false)
        else (p.twoStars, false)

end Progress

/-! ### The whole glob -/

/-- Reads the rest of a glob. -/
def readFrom (p : Progress) (cs : List Char) : Except GlobError Progress :=
  match cs with
  | [] => .ok p
  | '?' :: cs => readFrom (p.push one '?') cs
  | '*' :: '*' :: cs =>
    let (p, slashToo) := p.deepStars cs.head?
    readFrom p (if slashToo then cs.tail else cs)
  | '*' :: cs => readFrom (p.push many '*') cs
  | '\x7b' :: cs => readFrom p.openChoice cs
  | '\x7d' :: cs =>
    match p.closeChoice with
    | .ok p => readFrom p cs
    | .error cause => .error cause
  | ',' :: cs => readFrom p.nextBranch cs
  | ['\\'] => .error .danglingEscape
  | '\\' :: c :: cs => readFrom (p.push (literal c) c) cs
  | '[' :: cs =>
    match h : readSet cs with
    | .ok (some (g, rest)) =>
      have := length_of_readSet h
      readFrom (p.push g ']') rest
    | .ok none => readFrom (p.push (literal '[') '[') cs
    | .error cause => .error cause
  | c :: cs => readFrom (p.push (literal c) c) cs
termination_by cs.length
decreasing_by
  all_goals first
    | (simp only [List.length_cons]; omega)
    | (split <;> simp only [List.length_tail, List.length_cons] <;> omega)

/-- The glob that a text stands for.  Two stars alone stand for anything. -/
def parse (text : List Char) : Except GlobError Glob := do
  let p ← readFrom {} text
  if !p.enclosing.isEmpty then throw .unclosedChoice
  match p.pieces with
  | [leading] => return anything
  | pieces => return ofPieces pieces.reverse

end Glob

end NameLint

/-
Naming patterns.

A naming pattern has to match at the start of a name and may end anywhere in it; `\Z`
asks for the end of the name.  The pattern is put between an anchor with an opening
parenthesis and a closing one, as text, and the whole is what gets compiled.

A rule is a list of patterns, each with the outcome that a good name has.
-/
import NameLint.Regex.Compile

namespace NameLint

/-! ### Patterns -/

namespace NamePattern

/-- The pattern with each escape for the end of a name in the spelling that regexes have for it. -/
def respelled : List Char → List Char
  | [] => []
  | ['\\'] => ['\\']
  | '\\' :: c :: cs => '\\' :: (if c = 'Z' then 'z' else c) :: respelled cs
  | c :: cs => c :: respelled cs

/-- What stands before the pattern. -/
def opening : List Char := "^(?:".toList

/-- The pattern as it is compiled. -/
def wrapped (pattern : List Char) : List Char :=
  opening ++ respelled pattern ++ [')']

end NamePattern

/-- A pattern for names. -/
structure NamePattern where
  /-- The pattern as it is written. -/
  raw : String
  /-- What it matches. -/
  regex : Regex
deriving Repr

namespace NamePattern

/-- The pattern that a text spells, if it is within a limit. -/
def compileWithin (limit : Regex.Limit) (raw : String) : Except Regex.PatternError NamePattern := do
  return ⟨raw, ← Regex.compileWithin limit (wrapped raw.toList)⟩

/-- The pattern that a text spells. -/
def compile (raw : String) : Except Regex.PatternError NamePattern :=
  compileWithin .estimated raw

/-- Whether the pattern matches a name. -/
def accepts (p : NamePattern) (name : String) : Bool :=
  p.regex.isMatch name.toList

end NamePattern

/-! ### Rules -/

/-- A pattern with the outcome that a good name has. -/
structure PatternEntry where
  /-- The pattern. -/
  pattern : NamePattern
  /-- Whether a good name matches. -/
  expectedMatch : Bool := true
  /-- What to add to the message about a bad name. -/
  message : Option String := none
deriving Repr

/-- Whether a name is bad by this entry. -/
def PatternEntry.fires (e : PatternEntry) (name : String) : Bool :=
  e.pattern.accepts name != e.expectedMatch

/-- The entries that a name of one kind has to satisfy. -/
structure RuleSpec where
  /-- The entries in order. -/
  entries : List PatternEntry := []
deriving Repr

namespace RuleSpec

/-- The entry with the outcome that names match. -/
def required (raw : String) : Except Regex.PatternError PatternEntry := do
  return ⟨← NamePattern.compile raw, true, none⟩

/-- The rule that names match every pattern. -/
def ofPatterns (raws : List String) : Except Regex.PatternError RuleSpec := do
  return ⟨← raws.mapM required⟩

/-- The entries by which a name is bad. -/
def violated (r : RuleSpec) (name : String) : List PatternEntry :=
  r.entries.filter (·.fires name)

end RuleSpec

end NameLint

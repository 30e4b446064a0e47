/-
Guard policies: which headers have include guards, and what the guards are called.

The name of a guard is derived from the path of its header: letters and digits are kept,
in the case asked for, and whatever stands between them becomes one underscore.
-/
import NameLint.File.Path
import NameLint.Pattern
import NameLint.Unicode.Casing

namespace NameLint

/-! ### Choices -/

/-- What a guard is named after. -/
inductive GuardInput where
  /-- The name of the file. -/
  | baseName
  /-- The whole path. -/
  | path
deriving DecidableEq, Repr, Inhabited

namespace GuardInput

/-- The choices, as diagnostics show them. -/
def choices : String := "basename, path"

/-- The choice of that name. -/
def ofName? (s : String) : Option GuardInput :=
  if s = "basename" then some baseName else if s = "path" then some path else none

/-- The text that a path gives: what is shown of it. -/
def of (input : GuardInput) (path : Path) : String :=
  match input with
  | baseName => path.baseName
  | GuardInput.path => path.shown

end GuardInput

/-- The case of a guard. -/
inductive GuardCase where
  | upper
  | lower
  | keep
deriving DecidableEq, Repr, Inhabited

namespace GuardCase

/-- The choices, as diagnostics show them. -/
def choices : String := "upper, lower, keep"

/-- The choice of that name. -/
def ofName? (s : String) : Option GuardCase :=
  if s = "upper" then some upper
  else if s = "lower" then some lower
  else if s = "keep" ∨ s = "unchanged" then some keep
  else none

/-- The text in the case asked for. -/
def apply (c : GuardCase) (text : List Char) : List Char :=
  match c with
  | upper => Casing.upper text
  | lower => Casing.lower text
  | keep => text

end GuardCase

/-! ### Tokens -/

namespace GuardToken

/-- The text with every run of other characters than ASCII letters and digits as one underscore. -/
def barred (inBar : Bool) : List Char → List Char
  | [] => []
  | c :: cs =>
    if c.isAlphanum then c :: barred false cs
    else if inBar then barred true cs
    else '_' :: barred true cs

/-- The text without underscores at its ends. -/
def trimBars (text : List Char) : List Char :=
  ((text.dropWhile (· = '_')).reverse.dropWhile (· = '_')).reverse

/-- The body of the token of a text in the right case. -/
def bodyOf (cased : List Char) : List Char :=
  trimBars (barred false cased)

/-- The token of a text. -/
def derive (input before after : String) (c : GuardCase) : String :=
  before ++ String.ofList (bodyOf (c.apply input.toList)) ++ after

end GuardToken

/-! ### Policies -/

/-- The pattern for headers, unless another is configured. -/
def defaultHeader : String := ".*\\.h\\Z"

/-- The pattern for headers, ready for use. -/
def defaultHeaderPattern : NamePattern :=
  match NamePattern.compile defaultHeader with
  | .ok p => p
  | .error _ => ⟨defaultHeader, .empty⟩

/-- What is asked of include guards. -/
structure GuardPolicy where
  /-- The names of the files that have guards. -/
  header : NamePattern := defaultHeaderPattern
  /-- Whether a header has to have a guard. -/
  required : Bool := true
  /-- What guards are named after. -/
  input : GuardInput := .path
  /-- The case of guards. -/
  guardCase : GuardCase := .upper
  /-- What stands before the derived name. -/
  before : String := ""
  /-- What stands after the derived name. -/
  after : String := ""
  /-- The number of lines in which the guard has to stand. -/
  lineLimit : Nat := 5
deriving Repr

namespace GuardPolicy

/-- Whether a file of that name has a guard. -/
def appliesTo (p : GuardPolicy) (baseName : String) : Bool :=
  p.header.accepts baseName

/-- The guard of the header with that path. -/
def expectedGuard (p : GuardPolicy) (path : Path) : String :=
  GuardToken.derive (p.input.of path) p.before p.after p.guardCase

end GuardPolicy

end NameLint

/-
Ignore files: lines that say which paths to pass over.

A line holds a glob.  An exclamation mark in front takes paths back in; a slash in front
binds the glob to the directory of the file, and so does a slash inside; a slash at the end
leaves directories alone.  The last line that stands for a path decides about it.
-/
import NameLint.Ignore.GlobParser
import NameLint.Text.Basic

namespace NameLint

/-- What is said about a path. -/
inductive Verdict where
  /-- The path is passed over. -/
  | ignored
  /-- The path is taken back in. -/
  | kept
deriving DecidableEq, Repr

/-- The rule of a line. -/
structure IgnoreRule where
  /-- The paths it stands for. -/
  glob : Glob
  /-- What it says about them. -/
  verdict : Verdict
  /-- Whether it stands for directories alone. -/
  onlyDirectories : Bool
deriving Repr

namespace IgnoreRule

/-! ### Lines -/

/-- The line without blanks at its end, unless the last of them is escaped. -/
def trimEnd (line : List Char) : List Char :=
  if ['\\', ' '].isSuffixOf line then line
  else (Text.trimStart line.reverse).reverse

/-- The text of a line split into what it says, whether it is bound to the directory, and the
rest. -/
def splitStart : List Char → Verdict × Bool × List Char
  | '\\' :: '!' :: cs => (.ignored, false, '!' :: cs)
  | '\\' :: '#' :: cs => (.ignored, false, '#' :: cs)
  | '!' :: '/' :: cs => (.kept, true, cs)
  | '!' :: cs => (.kept, false, cs)
  | '/' :: cs => (.ignored, true, cs)
  | cs => (.ignored, false, cs)

/-- The text without a slash at its end, and without the backslash before that slash. -/
def splitEnd (text : List Char) : Bool × List Char :=
  match text.reverse with
  | '/' :: '\\' :: before => (true, before.reverse)
  | '/' :: before => (true, before.reverse)
  | _ => (false, text)

/-- The text of the glob: one that is bound to no directory stands for paths at any depth, and
one that ends in two stars stands for what is inside of a directory and not for itself. -/
def globText (bound : Bool) (text : List Char) : List Char :=
  let anywhere := !bound && !text.contains '/' && text ≠ ['*', '*']
  let text := if anywhere then '*' :: '*' :: '/' :: text else text
  if ['/', '*', '*'].isSuffixOf text then text ++ ['/', '*'] else text

/-- The rule of a line, if it is no comment and not empty. -/
def ofLine? (line : List Char) : Except GlobError (Option IgnoreRule) := do
  if line.head? = some '#' then return none
  let line := trimEnd line
  if line.isEmpty then return none
  let (verdict, bound, text) := splitStart line
  let (onlyDirectories, text) := splitEnd text
  return some ⟨← Glob.parse (globText bound text), verdict, onlyDirectories⟩

/-- Whether the rule stands for a path. -/
def accepts (r : IgnoreRule) (path : List UInt8) (isDirectory : Bool) : Bool :=
  (!r.onlyDirectories || isDirectory) && r.glob.accepts path

end IgnoreRule

/-! ### Files -/

/-- What an ignore file holds. -/
structure IgnoreFile where
  /-- The rules of its lines. -/
  rules : List IgnoreRule := []
  /-- Whether a line of it is no rule. -/
  flawed : Bool := false
deriving Repr

namespace IgnoreFile

/-- The file with one more line. -/
def addLine (f : IgnoreFile) (line : List Char) : IgnoreFile :=
  match IgnoreRule.ofLine? line with
  | .ok none => f
  | .ok (some rule) => { f with rules := f.rules ++ [rule] }
  | .error _ => { f with flawed := true }

/-- The bytes between newlines. -/
def rawLines : List UInt8 → List (List UInt8)
  | [] => []
  | b :: bs =>
    if b = 10 then [] :: rawLines bs
    else if b = 13 ∧ bs.head? = some 10 then rawLines bs
    else
      match rawLines bs with
      | [] => [[b]]
      | l :: ls => (b :: l) :: ls

/-- The lines up to the first that is no text. -/
def textLines : List (List UInt8) → List (List Char)
  | [] => []
  | l :: ls =>
    match String.fromUTF8? l.toByteArray with
    | some text => text.toList :: textLines ls
    | none => []

/-- The file without the mark of the byte order at its start. -/
def withoutMark : List (List Char) → List (List Char)
  | [] => []
  | l :: ls => (if l.head? = some '\ufeff' then l.dropWhile (· = '\ufeff') else l) :: ls

/-- The ignore file that the bytes hold. -/
def ofBytes (bytes : ByteArray) : IgnoreFile :=
  (withoutMark (textLines (rawLines bytes.toList))).foldl addLine {}

/-- What the file says about a path, which is seen from its directory. -/
def verdict? (f : IgnoreFile) (path : List UInt8) (isDirectory : Bool) : Option Verdict :=
  (f.rules.reverse.find? fun r => r.accepts path isDirectory).map IgnoreRule.verdict

end IgnoreFile

end NameLint

/-
What stands between the values of a TOML document: blanks, line ends and comments.

A reading step takes what is left of the text and gives the value read together with the
rest, or nothing.  A document that is refused anywhere is refused as a whole, and no step
is tried again once it has failed.
-/

namespace NameLint.Toml

/-- A reading step. -/
abbrev Read := StateT (List Char) Option

/-- Whether the character is a blank within a line. -/
def isBlank (c : Char) : Bool :=
  c = ' ' || c = '\t'

/-- Whether the character may stand in a comment. -/
def isCommentChar (c : Char) : Bool :=
  c = '\t' || (0x20 ≤ c.toNat && c.toNat ≠ 0x7F)

/-- The text after its leading blanks. -/
def skipBlanks (cs : List Char) : List Char :=
  cs.dropWhile isBlank

/-- The text after the line end at its front; a carriage return counts only before a newline. -/
def afterNewline? : List Char → Option (List Char)
  | '\n' :: rest => some rest
  | '\r' :: '\n' :: rest => some rest
  | _ => none

/-- The text after blanks and line ends. -/
def skipLines : List Char → List Char
  | [] => []
  | '\r' :: '\n' :: rest => skipLines rest
  | c :: rest => if isBlank c || c = '\n' then skipLines rest else c :: rest

/-- The text after the comment at its front, if there is one. -/
def skipComment : List Char → List Char
  | '#' :: rest => rest.dropWhile isCommentChar
  | cs => cs

/-- The text after blanks, line ends and comments that end with their line; at most `fuel` lines. -/
def skipCommented : Nat → List Char → List Char
  | 0, cs => cs
  | fuel + 1, cs =>
    let cs := skipBlanks cs
    match afterNewline? (skipComment cs) with
    | some rest => skipCommented fuel rest
    | none => cs

/-- Passes over blanks. -/
def blanks : Read Unit := fun cs => some ((), skipBlanks cs)

/-- Passes over blanks, line ends and comments. -/
def gap : Read Unit := fun cs => some ((), skipCommented (cs.length + 1) cs)

/-- Reads the given character. -/
def char (c : Char) : Read Unit
  | d :: rest => if d = c then some ((), rest) else none
  | [] => none

/-- Reads the given characters. -/
def chars : List Char → Read Unit
  | [] => return ()
  | c :: cs => do char c; chars cs

/-- Reads the end of a line or of the text. -/
def lineEnd : Read Unit := fun cs =>
  if cs.isEmpty then some ((), [])
  else (afterNewline? cs).map fun rest => ((), rest)

/-- Reads what may follow a statement on its line. -/
def lineRest : Read Unit := fun cs =>
  lineEnd (skipComment (skipBlanks cs))

end NameLint.Toml

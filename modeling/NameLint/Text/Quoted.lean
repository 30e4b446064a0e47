/-
Quoted texts in messages.

A quoted text shows every character that a reader could mistake or not see by an escape:
quotes and backslashes, line ends and tabs, whatever extends the character before it, and
whatever has no shape of its own.
-/
import NameLint.Unicode.Binary

namespace NameLint.Text

/-- Characters without a shape of their own; the plain space counts as one with a shape. -/
def shapeless : CharSet :=
  (CharSet.unions [Category.other, Category.separator]).minus (.single 0x20)

/-- The escape that gives a character by its code point. -/
def codeEscape (c : Char) : List Char :=
  "\\u\x7b".toList ++ Nat.toDigits 16 c.toNat ++ ['\x7d']

/-- How a character is written between quotes. -/
def quotedChar (c : Char) : List Char :=
  if c = '\x00' then ['\\', '0']
  else if c = '\t' then ['\\', 't']
  else if c = '\r' then ['\\', 'r']
  else if c = '\n' then ['\\', 'n']
  else if c = '\\' ∨ c = '"' then ['\\', c]
  else if Property.graphemeExtend.contains c || shapeless.contains c then codeEscape c
  else [c]

/-- The text between quotes. -/
def quoted (text : String) : String :=
  String.ofList ('"' :: text.toList.flatMap quotedChar ++ ['"'])

end NameLint.Text

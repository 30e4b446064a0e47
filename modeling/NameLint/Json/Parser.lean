/-
Reading a document into a value.

`Json.parse` accepts exactly one value.  Lists and dictionaries may be nested 127 deep;
the bound is the recursion measure of the reader, and running into it is an error of its
own.
-/
import NameLint.Json.Value
import NameLint.Json.Container

namespace NameLint.Json

/-- The greatest number of lists and dictionaries inside one another. -/
def depthLimit : Nat := 127

/-- The value a number stands for. -/
def Number.toJson : Number → Json
  | int i => .int i
  | float x => .float x

/-- Reads a value whose lists and dictionaries nest at most `depth` deep. -/
def value (depth : Nat) : Read Json := fun cs =>
  match skipGaps cs with
  | [] => .error .endInValue
  | 'n' :: rest => (do word ['u', 'l', 'l']; return Json.null) rest
  | 't' :: rest => (do word ['r', 'u', 'e']; return Json.bool true) rest
  | 'f' :: rest => (do word ['a', 'l', 's', 'e']; return Json.bool false) rest
  | '"' :: rest => (.str <$> text) rest
  | '[' :: rest =>
    match depth with
    | 0 => .error .tooDeep
    | depth + 1 =>
      (do
        let values ← items (value depth)
        closeList
        return Json.list values) rest
  | '\x7b' :: rest =>
    match depth with
    | 0 => .error .tooDeep
    | depth + 1 =>
      (do
        let built ← entries
          (fun key built => do colon; return putEntry key (← value depth) built) []
        closeDict
        return Json.dict built) rest
  | c :: rest =>
    if c = '-' || c.isDigit then (Number.toJson <$> number) (c :: rest) else .error .expectedValue

/-- The value of a document. -/
def parse (source : String) : Except ReadError Json :=
  document (value depthLimit) source

end NameLint.Json

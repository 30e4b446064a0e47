/-
Dates and times of a TOML document.

A date has to exist in the calendar.  The normal form has a capital T between date and
time, at most nine decimals of a second without trailing zeros, and a capital Z or a sign
in front of the distance from universal time.
-/
import NameLint.Toml.Number

namespace NameLint.Toml

/-! ### Fields of fixed width -/

/-- Reads the given number of digits. -/
def fixedDigits : Nat → Nat → Read Nat
  | 0, n => return n
  | count + 1, n => fun
    | [] => none
    | c :: rest => if c.isDigit then fixedDigits count (n * 10 + Text.digitValue c) rest else none

/-- Reads a two-digit number within bounds. -/
def field (lo hi : Nat) : Read Nat := do
  let n ← fixedDigits 2 0
  if lo ≤ n ∧ n ≤ hi then return n else failure

/-- The decimal digits of a number, with zeros in front up to the given width. -/
def padded (width n : Nat) : List Char :=
  let ds := Nat.toDigits 10 n
  List.replicate (width - ds.length) '0' ++ ds

/-! ### Dates -/

/-- Whether the year has a 29th of February. -/
def isLeapYear (year : Nat) : Bool :=
  year % 4 == 0 && (year % 100 != 0 || year % 400 == 0)

/-- The number of days in a month. -/
def daysIn (year month : Nat) : Nat :=
  if month = 2 then if isLeapYear year then 29 else 28
  else if month = 4 ∨ month = 6 ∨ month = 9 ∨ month = 11 then 30
  else 31

/-- Reads a date. -/
def date : Read (List Char) := do
  let year ← fixedDigits 4 0
  char '-'
  let month ← field 1 12
  char '-'
  let day ← field 1 (daysIn year month)
  return padded 4 year ++ '-' :: padded 2 month ++ '-' :: padded 2 day

/-! ### Times -/

/-- The decimals of a second in normal form. -/
def decimals (ds : List Char) : List Char :=
  let kept := ((ds.take 9).reverse.dropWhile (· = '0')).reverse
  if kept.isEmpty then [] else '.' :: kept

/-- Reads the decimals of a second, if there are any. -/
def decimals? : Read (List Char) := fun cs =>
  match cs with
  | '.' :: rest =>
    let ds := rest.takeWhile Char.isDigit
    if ds.isEmpty then some ([], cs) else some (decimals ds, rest.dropWhile Char.isDigit)
  | _ => some ([], cs)

/-- Reads a time of day. -/
def time : Read (List Char) := do
  let hour ← field 0 23
  char ':'
  let minute ← field 0 59
  char ':'
  let second ← field 0 60
  let rest ← decimals?
  return padded 2 hour ++ ':' :: padded 2 minute ++ ':' :: padded 2 second ++ rest

/-- Reads the distance from universal time after its sign. -/
def distance (negative : Bool) : Read (List Char) := do
  let hours ← field 0 23
  char ':'
  let minutes ← field 0 59
  let shown := if negative && hours + minutes != 0 then '-' else '+'
  return shown :: padded 2 hours ++ ':' :: padded 2 minutes

/-- Reads the distance from universal time, if there is one. -/
def distance? : Read (List Char) := fun cs =>
  match cs with
  | 'Z' :: rest | 'z' :: rest => some (['Z'], rest)
  | '+' :: rest => distance false rest
  | '-' :: rest => distance true rest
  | _ => some ([], cs)

/-! ### Both -/

/-- Whether the text starts with the given number of digits and the character after them. -/
def startsWithField (count : Nat) (after : Char) (cs : List Char) : Bool :=
  (cs.take count).length == count && (cs.take count).all Char.isDigit
    && (cs.drop count).head? == some after

/-- Reads a date and the time after it, if there is one. -/
def dateAndTime : Read (List Char) := do
  let day ← date
  fun cs =>
    match cs with
    | c :: rest =>
      if (c = 'T' ∨ c = 't' ∨ c = ' ') ∧ startsWithField 2 ':' rest then
        (do return day ++ 'T' :: (← time) ++ (← distance?)) rest
      else some (day, cs)
    | [] => some (day, [])

/-- Reads a number, a date or a time. -/
def numberOrTime : Read Value := fun cs =>
  if startsWithField 4 '-' cs then ((Value.datetime ∘ String.ofList) <$> dateAndTime) cs
  else if startsWithField 2 ':' cs then ((Value.datetime ∘ String.ofList) <$> time) cs
  else number cs

end NameLint.Toml

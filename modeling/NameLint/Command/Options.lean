/-
Options on a command line.

An argument is a row of bytes, as a path is.  It is a word, a long option `--name`, a cluster
of short options `-ab`, or the mark `--` after which everything is a word.  The value of an
option follows it in the next argument, after an equals sign, or right after a short one.  This
file splits arguments into
items and knows nothing of what the options do.
-/

import NameLint.File.Path

namespace NameLint.Command

/-- The options. -/
inductive OptionName where
  /-- More log lines. -/
  | verbose
  /-- The path of the configuration. -/
  | config
  /-- The form of the report. -/
  | format
  /-- The severity from which on a check fails. -/
  | failOn
  /-- The choice of rules. -/
  | preset
  /-- Whether files may be replaced. -/
  | force
  /-- The help. -/
  | help
  /-- The version. -/
  | version
deriving DecidableEq, Repr

namespace OptionName

/-- The long name. -/
def long : OptionName → String
  | verbose => "verbose"
  | config => "config"
  | format => "format"
  | failOn => "fail-on"
  | preset => "preset"
  | force => "force"
  | help => "help"
  | version => "version"

/-- The byte of the letter, if there is one: `v`, `c`, `f`, `h` or `V`. -/
def letter? : OptionName → Option UInt8
  | verbose => some 0x76
  | config => some 0x63
  | format => some 0x66
  | help => some 0x68
  | version => some 0x56
  | failOn | preset | force => none

/-- Whether the option has a value. -/
def hasValue : OptionName → Bool
  | config | format | failOn | preset => true
  | verbose | force | help | version => false

end OptionName

/-- A part of a command line. -/
inductive Item where
  /-- An option without a value. -/
  | flag (name : OptionName)
  /-- An option and its value. -/
  | value (name : OptionName) (value : Path)
  /-- Anything else. -/
  | word (value : Path)
  /-- Something that cannot be understood. -/
  | mistake
deriving DecidableEq, Repr

/-- The items of one argument, and the option that still waits for its value. -/
abbrev Scanned := List Item × Option OptionName

/-! ### One argument -/

/-- The byte that begins an option. -/
def hyphen : UInt8 := 0x2D

/-- The byte between an option and a value in the same argument. -/
def equals : UInt8 := 0x3D

/-- The items of a long option, given without its hyphens. -/
def scanLong (known : List OptionName) (bytes : List UInt8) : Scanned :=
  let name : Path := ⟨bytes.takeWhile (· ≠ equals)⟩
  let attached := bytes.dropWhile (· ≠ equals)
  match known.find? (fun o => .ofText o.long = name), attached with
  | none, _ => ([.mistake], none)
  | some o, [] => if o.hasValue then ([], some o) else ([.flag o], none)
  | some o, _ :: value => if o.hasValue then ([.value o ⟨value⟩], none) else ([.mistake], none)

/-- The items of a cluster of short options, given without its hyphen. -/
def scanCluster (known : List OptionName) : List UInt8 → Scanned
  | [] => ([], none)
  | b :: bs =>
    match known.find? (fun o => o.letter? = some b) with
    | none => ([.mistake], none)
    | some o =>
      if !o.hasValue then
        let (items, waiting) := scanCluster known bs
        (.flag o :: items, waiting)
      else if bs.isEmpty then ([], some o)
      else ([.value o ⟨if bs.head? = some equals then bs.tail else bs⟩], none)

/-- Whether an argument is no word. -/
def looksLikeOption (argument : Path) : Bool :=
  argument.bytes.head? = some hyphen && 2 ≤ argument.bytes.length

/-- The items of an argument. -/
def scanArgument (known : List OptionName) (argument : Path) : Scanned :=
  if looksLikeOption argument then
    match argument.bytes.tail with
    | b :: bs => if b = hyphen then scanLong known bs else scanCluster known (b :: bs)
    | [] => ([.mistake], none)
  else ([.word argument], none)

/-! ### All arguments -/

/-- The items of arguments. -/
def scan (known : List OptionName) : List Path → List Item
  | [] => []
  | argument :: rest =>
    if argument = "--" then rest.map .word
    else
      match scanArgument known argument, rest with
      | (items, none), rest => items ++ scan known rest
      | (items, some _), [] => items ++ [.mistake]
      | (items, some o), value :: rest =>
        if looksLikeOption value then items ++ [.mistake]
        else items ++ .value o value :: scan known rest

/-- The items in front of the first word, and the arguments from that word on. -/
def scanFront (known : List OptionName) : List Path → List Item × List Path
  | [] => ([], [])
  | argument :: rest =>
    if argument = "--" then ([.mistake], [])
    else if !looksLikeOption argument then ([], argument :: rest)
    else
      match scanArgument known argument, rest with
      | (items, none), rest =>
        let (more, left) := scanFront known rest
        (items ++ more, left)
      | (items, some _), [] => (items ++ [.mistake], [])
      | (items, some o), value :: rest =>
        if looksLikeOption value then (items ++ [.mistake], [])
        else
          let (more, left) := scanFront known rest
          (items ++ .value o value :: more, left)

end NameLint.Command

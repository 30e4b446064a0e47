/-
The ignore file of a user.

It counts in every repository, and it sees paths as they are given.  The user's settings may
say where it lies; otherwise it lies beside them.
-/
import NameLint.Ignore.Level

namespace NameLint

/-- The directories of a user, as far as they are known. -/
structure UserDirectories where
  /-- The home directory. -/
  home : Option Path := none
  /-- The directory for settings; if absent, it is `.config` in the home directory. -/
  settings : Option Path := none
deriving DecidableEq, Repr

/-- The directory for settings. -/
def UserDirectories.settings? (u : UserDirectories) : Option Path :=
  match u.settings with
  | some directory => some directory
  | none => u.home.map fun home => Path.join home ".config"

/-- The ignore file of a user. -/
structure OwnIgnores where
  /-- The file. -/
  file : IgnoreFile := {}
  /-- The place that relative paths start from. -/
  current : List Path := []

namespace OwnIgnores

variable {m : Type → Type} [Monad m]

/-! ### Finding the file -/

/-- The text without a quotation mark at its start. -/
def dropQuote : List Char → List Char
  | '"' :: cs => cs
  | cs => cs

/-- The text without blanks at its end. -/
def trimEnd (text : List Char) : List Char :=
  (Text.trimStart text.reverse).reverse

/-- The path that a line of the settings gives for the ignore file. -/
def pathInLine? (line : String) : Option String :=
  let key := "excludesfile".toList
  let text := Text.trimStart line.toList
  if (text.take key.length).map Char.toLower ≠ key then none
  else
    match Text.trimStart (text.drop key.length) with
    | '=' :: rest =>
      let rest := trimEnd (Text.trimStart (dropQuote (Text.trimStart rest)))
      let path := trimEnd (dropQuote rest.reverse).reverse
      if path.isEmpty || path.any Text.isBlank then none else some (String.ofList path)
    | _ => none

/-- The path with the home directory, as it is shown, in place of each tilde. -/
def expandHome (u : UserDirectories) (path : String) : String :=
  match u.home with
  | none => path
  | some home =>
    String.ofList (path.toList.flatMap fun c => if c = '~' then home.shown.toList else [c])

/-- The path that a file of settings gives for the ignore file. -/
def pathInFile? (files : FileAccess m) (path : Option Path) : m (Option String) := do
  match path with
  | none => return none
  | some path =>
    match ← files.readText path with
    | .ok text => return (Text.linesOf text).findSome? pathInLine?
    | .error _ => return none

/-- Where the ignore file lies. -/
def path? (files : FileAccess m) (u : UserDirectories) : m (Option Path) := do
  let inSettings (name : Path) := u.settings?.map fun d => Path.join (Path.join d "git") name
  match ← pathInFile? files (u.home.map fun home => Path.join home ".gitconfig") with
  | some path => return some (expandHome u path)
  | none =>
    match ← pathInFile? files (inSettings "config") with
    | some path => return some (expandHome u path)
    | none => return inSettings "ignore"

/-- The ignore file of a user. -/
def load (files : FileAccess m) (u : UserDirectories) : m OwnIgnores := do
  let current := match ← files.canonical "." with
    | .ok place => place
    | .error _ => []
  match ← path? files u with
  | some path => return { file := ← IgnoreLevel.loadFile files path, current }
  | none => return { current }

/-! ### Paths -/

/-- The bytes without any `./` at their start. -/
def dropHere : List UInt8 → List UInt8
  | 0x2E :: 0x2F :: bs => dropHere bs
  | bs => bs

/-- A path as the file sees it: as it is given, but for references to the current directory. -/
def seen (own : OwnIgnores) (path : Path) : List UInt8 :=
  let here : Path := "/" ++ Path.ofComponents own.current ++ "/"
  if here.bytes.isPrefixOf path.bytes then path.bytes.drop here.bytes.length
  else dropHere path.bytes

end OwnIgnores

end NameLint

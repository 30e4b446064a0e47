/-
What a command line asks for.

The options of all commands may stand in front of the command's name or after it.  Options
that are given twice in the same place, values that are not among the choices, and words
that the command has no use for are mistakes.
-/
import NameLint.Command.Options
import NameLint.Rule.Rule

namespace NameLint.Command

/-- The forms of a report. -/
inductive OutputFormat where
  /-- A line for each violation with its column and id, and the totals. -/
  | text
  /-- A line for each violation. -/
  | standalone
  /-- One document. -/
  | json
deriving DecidableEq, Repr, Inhabited

/-- The form of that name. -/
def OutputFormat.ofName? : String → Option OutputFormat
  | "text" => some text
  | "standalone" => some standalone
  | "json" => some json
  | _ => none

/-- The choice of rules of that name. -/
def presetOfName? : String → Option Preset
  | "all" => some .all
  | "naming" => some .naming
  | _ => none

/-- The choice that a value names, which has to be a text. -/
def chosen? {α : Type} (ofName? : String → Option α) (value : Path) : Option α :=
  value.text?.bind ofName?

/-- What is asked for in place of a command. -/
inductive Usage where
  /-- The help or the version is asked for. -/
  | shown
  /-- The command line cannot be understood. -/
  | mistaken
deriving DecidableEq, Repr

/-- The status a process ends with. -/
def Usage.status : Usage → Nat
  | shown => 0
  | mistaken => 2

/-- How dumps are to be checked. -/
structure CheckOptions where
  /-- The dumps, and the directories to look for dumps in. -/
  paths : List Path := ["."]
  /-- The form of the report. -/
  format : OutputFormat := .text
  /-- The severity from which on a check fails. -/
  failOn : Severity := .error
  /-- The rules. -/
  preset : Preset := .all
deriving DecidableEq, Repr

/-- The commands. -/
inductive Task where
  /-- Checks dumps. -/
  | check (options : CheckOptions)
  /-- Checks the configuration. -/
  | validateConfig
  /-- Lists the rules. -/
  | listRules
  /-- Writes a first configuration. -/
  | start (force : Bool)
deriving DecidableEq, Repr

/-- A command and the options of all commands. -/
structure Invocation where
  /-- The path of the configuration, if it is given. -/
  config : Option Path := none
  /-- The command. -/
  task : Task
deriving DecidableEq, Repr

/-! ### Items in place -/

/-- What has been given so far. -/
structure Given where
  /-- The options without values. -/
  flags : List OptionName := []
  /-- The path of the configuration. -/
  config : Option Path := none
  /-- The form of the report. -/
  format : Option OutputFormat := none
  /-- The severity from which on a check fails. -/
  failOn : Option Severity := none
  /-- The rules. -/
  preset : Option Preset := none
  /-- The words. -/
  words : List Path := []

/-- A value in a place that has to be free. -/
def fill {α : Type} (place value : Option α) : Except Usage (Option α) :=
  match place, value with
  | none, some v => .ok (some v)
  | _, _ => .error .mistaken

/-- A path, which must not be empty. -/
def pathOf? (value : Path) : Option Path :=
  if value = "" then none else some value

/-- What has been given with one more item. -/
def Given.add (g : Given) : Item → Except Usage Given
  | .flag .help | .flag .version => .error .shown
  | .flag o => if g.flags.contains o then .error .mistaken else .ok { g with flags := o :: g.flags }
  | .value .config v => do return { g with config := ← fill g.config (pathOf? v) }
  | .value .format v => do
    return { g with format := ← fill g.format (chosen? OutputFormat.ofName? v) }
  | .value .failOn v => do return { g with failOn := ← fill g.failOn (chosen? Severity.ofName? v) }
  | .value .preset v => do return { g with preset := ← fill g.preset (chosen? presetOfName? v) }
  | .value _ _ | .mistake => .error .mistaken
  | .word w =>
    match pathOf? w with
    | some w => .ok { g with words := g.words ++ [w] }
    | none => .error .mistaken

/-- What the items give. -/
def Given.ofItems (items : List Item) : Except Usage Given :=
  items.foldlM Given.add {}

/-! ### Commands -/

/-- The options that stand in front of a command. -/
def frontOptions : List OptionName := [.verbose, .config, .help, .version]

/-- The options of all commands. -/
def sharedOptions : List OptionName := [.verbose, .config, .help]

/-- The options and words after a command's name, for a command without words. -/
def wordless (known : List OptionName) (arguments : List Path) : Except Usage Given := do
  let g ← Given.ofItems
    ((scan (sharedOptions ++ known) arguments).map fun
      | .word _ => .mistake
      | item => item)
  return g

/-- The command of that name with its arguments. -/
def readTask (name : String) (arguments : List Path) : Except Usage (Task × Given) := do
  match name with
  | "check" =>
    let g ← Given.ofItems (scan (sharedOptions ++ [.format, .failOn, .preset]) arguments)
    let options : CheckOptions :=
      { paths := if g.words.isEmpty then ["."] else g.words
        format := g.format.getD .text
        failOn := g.failOn.getD .error
        preset := g.preset.getD .all }
    return (.check options, g)
  | "validate-config" => return (.validateConfig, ← wordless [] arguments)
  | "list-rules" => return (.listRules, ← wordless [] arguments)
  | "init" =>
    let g ← wordless [.force] arguments
    return (.start (g.flags.contains .force), g)
  | "help" => throw .shown
  | _ => throw .mistaken

/-- What the arguments ask for.  The configuration given after the command's name wins. -/
def Invocation.ofArguments (arguments : List Path) : Except Usage Invocation := do
  let (items, rest) := scanFront frontOptions arguments
  let front ← Given.ofItems items
  match rest with
  | [] => throw .mistaken
  | name :: rest =>
    match name.text? with
    | none => throw .mistaken
    | some name =>
      let (task, given) ← readTask name rest
      return { config := given.config <|> front.config, task }

end NameLint.Command

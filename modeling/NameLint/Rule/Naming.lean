/-
The rule for names.

Every symbol is checked on its own: first for the prefix that its type asks for, then
against each entry of the rule for its kind.  Variables without a rule for their scope
have the rule for variables.
-/
import NameLint.Config.Settings
import NameLint.Dump.CompilationUnit

namespace NameLint.Naming

/-- The name of the rule. -/
def name : String := "naming-convention"

/-- What the rule checks. -/
def description : String :=
  "Checks symbol and file names against configured patterns and type prefixes"

/-- The id of all violations of the rule. -/
def violationId : String := "namingng-namingConvention"

/-! ### Kinds of symbols -/

/-- The rule key for variables of a scope. -/
def scopeKey : Scope → RuleKey
  | .global => .globalVariable
  | .function => .variableName
  | .publicMember => .publicMember
  | .privateMember => .privateMember

/-- What a variable of a scope is called in messages. -/
def scopeLabel : Scope → String
  | .global => "Global variable"
  | .function => "Variable"
  | .publicMember => "Public member variable"
  | .privateMember => "Private member variable"

/-- What a function is called in messages. -/
def functionLabel (f : Function) : String :=
  if f.isConstructor then "Class Constructor" else "Function"

/-- The rule for variables of a scope, which is that for all variables if the scope has none. -/
def scopeRule (s : Settings) (scope : Scope) : Option RuleSpec :=
  match s.rule (scopeKey scope) with
  | some spec => some spec
  | none => s.rule .variableName

/-! ### Messages -/

/-- The message about a bad name. -/
def complaint (label name : String) : String :=
  label ++ " " ++ name ++ " violates naming convention"

/-- The message about a name that is bad by an entry. -/
def entryComplaint (label name : String) (e : PatternEntry) : String :=
  match e.message with
  | some custom => complaint label name ++ ": " ++ custom
  | none => complaint label name

/-- The messages about a name that lacks the prefix of its type. -/
def prefixComplaints (table : PrefixTable) (type label name : String) : List String :=
  match table.missing? type name with
  | some _ => [complaint label name]
  | none => []

/-- The messages about a name that breaks a rule. -/
def patternComplaints (spec : Option RuleSpec) (label name : String) : List String :=
  match spec with
  | some spec => (spec.violated name).map (entryComplaint label name)
  | none => []

/-! ### Symbols -/

/-- The messages about a variable. -/
def variableComplaints (s : Settings) (v : Variable) : List String :=
  let label := scopeLabel v.scope
  prefixComplaints s.variablePrefixes v.declaredType label v.name
    ++ if s.skipOneCharVariables ∧ v.name.length = 1 then []
      else patternComplaints (scopeRule s v.scope) label v.name

/-- The messages about a function; constructors and functions without a return type need no
prefix. -/
def functionComplaints (s : Settings) (f : Function) : List String :=
  let label := functionLabel f
  (if f.isConstructor ∨ f.returnType = "" then []
    else prefixComplaints s.functionPrefixes f.returnType label f.name)
    ++ patternComplaints (s.rule .functionName) label f.name

/-- The messages about a symbol. -/
def complaints (s : Settings) : Symbol → List String
  | .file f => patternComplaints (s.rule .file) "File name" f.baseName
  | .variable v => variableComplaints s v
  | .function f => functionComplaints s f
  | .class c => patternComplaints (s.rule .className) "Class" c.name
  | .namespace n => patternComplaints (s.rule .namespaceName) "Namespace" n.name

/-- Where violations of a symbol are shown. -/
def location : Symbol → Location
  | .file f => .wholeFile f.path
  | .variable v => v.location
  | .function f => f.location
  | .class c => c.location
  | .namespace n => n.location

/-- What is wrong with the name of a symbol. -/
def checkSymbol (severity : Severity) (s : Settings) (x : Symbol) : List Violation :=
  (complaints s x).map fun message => ⟨violationId, severity, location x, message⟩

/-- What is wrong with the names of a unit. -/
def check (severity : Severity) (s : Settings) (u : CompilationUnit) : List Violation :=
  u.symbols.flatMap (checkSymbol severity s)

end NameLint.Naming

/-
Compilation units.

A unit is what a front end found in one compilation: the files it read and the symbols
declared in them, each list in the order in which they were met.  Rules see nothing else.

Front ends put blanks into type spellings at will.  The canonical spelling has one blank
between words and none in front of a word that starts with a pointer or reference mark.
-/
import NameLint.Text.Basic
import NameLint.Violation

/-! ### Type spellings -/

namespace NameLint.TypeSpelling

/-- Whether a character marks a pointer or a reference. -/
def isMark (c : Char) : Bool :=
  c = '*' || c = '&'

/-- A word as it stands after another one. -/
def following (word : List Char) : List Char :=
  if (word.head?.map isMark).getD false then word else ' ' :: word

/-- The words in canonical spelling. -/
def joined : List (List Char) → List Char
  | [] => []
  | word :: rest => word ++ rest.flatMap following

/-- The canonical spelling of a type, on characters. -/
def canonicalChars (spelling : List Char) : List Char :=
  joined (Text.words spelling)

/-- The canonical spelling of a type. -/
def canonical (spelling : String) : String :=
  String.ofList (canonicalChars spelling.toList)

end NameLint.TypeSpelling

namespace NameLint

/-! ### Symbols and files -/

/-- Where a variable lives. -/
inductive Scope where
  /-- Outside functions and classes. -/
  | global
  /-- Inside a function, or one of its arguments. -/
  | function
  /-- A public member of a class. -/
  | publicMember
  /-- A private member of a class. -/
  | privateMember
deriving DecidableEq, Repr, Inhabited

/-- A variable, an argument or a member. -/
structure Variable where
  /-- Its name. -/
  name : String
  /-- The spelling of its type; empty if unknown. -/
  declaredType : String
  /-- Where it lives. -/
  scope : Scope
  /-- Where it is declared. -/
  location : Location
deriving DecidableEq, Repr, Inhabited

/-- A function. -/
structure Function where
  /-- Its name. -/
  name : String
  /-- The spelling of its return type; empty if it has none. -/
  returnType : String
  /-- Whether it constructs an object. -/
  isConstructor : Bool
  /-- Where it is declared. -/
  location : Location
deriving DecidableEq, Repr, Inhabited

/-- A class. -/
structure Class where
  /-- Its name. -/
  name : String
  /-- Where it is declared. -/
  location : Location
deriving DecidableEq, Repr, Inhabited

/-- A namespace. -/
structure Namespace where
  /-- Its name. -/
  name : String
  /-- Where it is declared. -/
  location : Location
deriving DecidableEq, Repr, Inhabited

/-- A source file. -/
structure SourceFile where
  /-- Its path. -/
  path : Path
  /-- Its lines, if they are known. -/
  lines : Option (List String)
deriving DecidableEq, Repr, Inhabited

/-- The name of the file without its directory, as it is shown. -/
def SourceFile.baseName (f : SourceFile) : String := f.path.baseName

/-- The files and symbols of one compilation. -/
structure CompilationUnit where
  /-- The files. -/
  files : List SourceFile := []
  /-- The variables. -/
  vars : List Variable := []
  /-- The functions. -/
  functions : List Function := []
  /-- The classes. -/
  classes : List Class := []
  /-- The namespaces. -/
  namespaces : List Namespace := []
deriving DecidableEq, Repr, Inhabited

/-- Anything with a name that a rule can check. -/
inductive Symbol where
  | file (f : SourceFile)
  | variable (v : Variable)
  | function (f : Function)
  | class (c : Class)
  | namespace (n : Namespace)
deriving DecidableEq, Repr

/-- The name of a symbol. -/
def Symbol.name : Symbol → String
  | .file f => f.baseName
  | .variable v => v.name
  | .function f => f.name
  | .class c => c.name
  | .namespace n => n.name

namespace CompilationUnit

/-- All symbols: files, variables, functions, classes, namespaces. -/
def symbols (u : CompilationUnit) : List Symbol :=
  u.files.map .file ++ u.vars.map .variable ++ u.functions.map .function
    ++ u.classes.map .class ++ u.namespaces.map .namespace

/-- The symbols of one unit after those of another, list by list. -/
def append (u v : CompilationUnit) : CompilationUnit where
  files := u.files ++ v.files
  vars := u.vars ++ v.vars
  functions := u.functions ++ v.functions
  classes := u.classes ++ v.classes
  namespaces := u.namespaces ++ v.namespaces

/-- The unit with every type in canonical spelling. -/
def canonicalized (u : CompilationUnit) : CompilationUnit :=
  { u with
    vars := u.vars.map fun v => { v with declaredType := TypeSpelling.canonical v.declaredType }
    functions := u.functions.map fun f =>
      { f with returnType := TypeSpelling.canonical f.returnType } }

end CompilationUnit

end NameLint

/-
Units as documents.

A dump is the record of a compilation unit: a dictionary with a list for each kind of
symbol, all of which may be left out.  `toJson` writes a unit if all its paths are texts, and
`read` reads one; what is written is read back, types aside, which `parse` brings into
canonical spelling.
-/
import NameLint.Dump.CompilationUnit

namespace NameLint

/-! ### Scopes -/

namespace Scope

/-- The name under which a scope is written. -/
def name : Scope → String
  | global => "global"
  | function => "local"
  | publicMember => "public_member"
  | privateMember => "private_member"

/-- The names under which scopes are read; arguments count as local variables. -/
def names : List String := ["global", "argument", "local", "public_member", "private_member"]

/-- The scope of that name. -/
def ofName? (s : String) : Option Scope :=
  if s = "global" then some global
  else if s = "local" ∨ s = "argument" then some function
  else if s = "public_member" then some publicMember
  else if s = "private_member" then some privateMember
  else none

/-- Reads a scope. -/
def read : Json.Read Scope :=
  Json.variant names ofName?

end Scope

/-! ### Variables -/

namespace Variable

/-- The record of a variable. -/
def toJson (v : Variable) : Json.Written := do
  return .dict [("name", .str v.name), ("type", .str v.declaredType), ("scope", .str v.scope.name),
    ("location", ← v.location.toJson)]

/-- The fields of a variable read so far. -/
structure Parts where
  name : Option String := none
  declaredType : Option String := none
  scope : Option Scope := none
  location : Option Location := none

/-- Reads the value of one field. -/
def Parts.step (key : String) (p : Parts) : Json.Read Parts :=
  match key with
  | "name" => Json.fieldOnce key p.name (Json.textOr "a string") fun a => { p with name := some a }
  | "type" =>
    Json.fieldOnce key p.declaredType (Json.textOr "a string") fun a =>
      { p with declaredType := some a }
  | "scope" => Json.fieldOnce key p.scope Scope.read fun a => { p with scope := some a }
  | "location" => Json.fieldOnce key p.location Location.read fun a => { p with location := some a }
  | _ => Json.unknownField p

/-- Reads a variable. -/
def read : Json.Read Variable :=
  Json.record "Variable"
    (do
      let name ← Json.fieldAt "Variable" 4 0 (Json.textOr "a string")
      let declaredType ← Json.fieldAtOr "" 1 (Json.textOr "a string")
      let scope ← Json.fieldAt "Variable" 4 2 Scope.read
      let location ← Json.fieldAt "Variable" 4 3 Location.read
      return ⟨name, declaredType, scope, location⟩)
    (do
      let p ← Json.entries Parts.step {}
      let name ← Json.present "name" p.name
      let scope ← Json.present "scope" p.scope
      let location ← Json.present "location" p.location
      return ⟨name, p.declaredType.getD "", scope, location⟩)

end Variable

/-! ### Functions -/

namespace Function

/-- The record of a function. -/
def toJson (f : Function) : Json.Written := do
  return .dict [("name", .str f.name), ("return_type", .str f.returnType),
    ("constructor", .bool f.isConstructor), ("location", ← f.location.toJson)]

/-- The fields of a function read so far. -/
structure Parts where
  name : Option String := none
  returnType : Option String := none
  isConstructor : Option Bool := none
  location : Option Location := none

/-- Reads the value of one field. -/
def Parts.step (key : String) (p : Parts) : Json.Read Parts :=
  match key with
  | "name" => Json.fieldOnce key p.name (Json.textOr "a string") fun a => { p with name := some a }
  | "return_type" =>
    Json.fieldOnce key p.returnType (Json.textOr "a string") fun a =>
      { p with returnType := some a }
  | "constructor" =>
    Json.fieldOnce key p.isConstructor Json.truth fun a => { p with isConstructor := some a }
  | "location" => Json.fieldOnce key p.location Location.read fun a => { p with location := some a }
  | _ => Json.unknownField p

/-- Reads a function. -/
def read : Json.Read Function :=
  Json.record "Function"
    (do
      let name ← Json.fieldAt "Function" 4 0 (Json.textOr "a string")
      let returnType ← Json.fieldAtOr "" 1 (Json.textOr "a string")
      let isConstructor ← Json.fieldAtOr false 2 Json.truth
      let location ← Json.fieldAt "Function" 4 3 Location.read
      return ⟨name, returnType, isConstructor, location⟩)
    (do
      let p ← Json.entries Parts.step {}
      let name ← Json.present "name" p.name
      let location ← Json.present "location" p.location
      return ⟨name, p.returnType.getD "", p.isConstructor.getD false, location⟩)

end Function

/-! ### Classes and namespaces -/

/-- The fields of a symbol with a name and a location read so far. -/
structure NamedParts where
  name : Option String := none
  location : Option Location := none

/-- Reads the value of one field. -/
def NamedParts.step (key : String) (p : NamedParts) : Json.Read NamedParts :=
  match key with
  | "name" => Json.fieldOnce key p.name (Json.textOr "a string") fun a => { p with name := some a }
  | "location" => Json.fieldOnce key p.location Location.read fun a => { p with location := some a }
  | _ => Json.unknownField p

/-- Reads a record of a name and a location. -/
def NamedParts.read {α : Type} (record : String) (make : String → Location → α) : Json.Read α :=
  Json.record record
    (do
      let name ← Json.fieldAt record 2 0 (Json.textOr "a string")
      let location ← Json.fieldAt record 2 1 Location.read
      return make name location)
    (do
      let p ← Json.entries NamedParts.step {}
      let name ← Json.present "name" p.name
      let location ← Json.present "location" p.location
      return make name location)

/-- The record of a class. -/
def Class.toJson (c : Class) : Json.Written := do
  return .dict [("name", .str c.name), ("location", ← c.location.toJson)]

/-- Reads a class. -/
def Class.read : Json.Read Class :=
  NamedParts.read "Class" Class.mk

/-- The record of a namespace. -/
def Namespace.toJson (n : Namespace) : Json.Written := do
  return .dict [("name", .str n.name), ("location", ← n.location.toJson)]

/-- Reads a namespace. -/
def Namespace.read : Json.Read Namespace :=
  NamedParts.read "Namespace" Namespace.mk

/-! ### Source files -/

namespace SourceFile

/-- The record of a file, without lines if they are not known. -/
def toJson (f : SourceFile) : Json.Written := do
  return .dict (("path", ← f.path.toJson)
    :: match f.lines with
      | none => []
      | some lines => [("lines", .list (lines.map .str))])

/-- The fields of a file read so far. -/
structure Parts where
  path : Option Path := none
  lines : Option (Option (List String)) := none

/-- Reads the lines of a file, which may be absent. -/
def readLines : Json.Read (Option (List String)) :=
  Json.optional (Json.listOf (Json.textOr "a string"))

/-- Reads the value of one field. -/
def Parts.step (key : String) (p : Parts) : Json.Read Parts :=
  match key with
  | "path" => Json.fieldOnce key p.path Path.read fun a => { p with path := some a }
  | "lines" => Json.fieldOnce key p.lines readLines fun a => { p with lines := some a }
  | _ => Json.unknownField p

/-- Reads a file. -/
def read : Json.Read SourceFile :=
  Json.record "SourceFile"
    (do
      let path ← Json.fieldAt "SourceFile" 2 0 Path.read
      let lines ← Json.fieldAtOr none 1 readLines
      return ⟨path, lines⟩)
    (do
      let p ← Json.entries Parts.step {}
      return ⟨← Json.present "path" p.path, p.lines.getD none⟩)

end SourceFile

/-! ### Units -/

namespace CompilationUnit

/-- The record of a unit. -/
def toJson (u : CompilationUnit) : Json.Written := do
  return .dict [("files", .list (← u.files.mapM SourceFile.toJson)),
    ("variables", .list (← u.vars.mapM Variable.toJson)),
    ("functions", .list (← u.functions.mapM Function.toJson)),
    ("classes", .list (← u.classes.mapM Class.toJson)),
    ("namespaces", .list (← u.namespaces.mapM Namespace.toJson))]

/-- The fields of a unit read so far. -/
structure Parts where
  files : Option (List SourceFile) := none
  vars : Option (List Variable) := none
  functions : Option (List Function) := none
  classes : Option (List Class) := none
  namespaces : Option (List Namespace) := none

/-- Reads the value of one field. -/
def Parts.step (key : String) (p : Parts) : Json.Read Parts :=
  match key with
  | "files" =>
    Json.fieldOnce key p.files (Json.listOf SourceFile.read) fun a => { p with files := some a }
  | "variables" =>
    Json.fieldOnce key p.vars (Json.listOf Variable.read) fun a => { p with vars := some a }
  | "functions" =>
    Json.fieldOnce key p.functions (Json.listOf Function.read) fun a =>
      { p with functions := some a }
  | "classes" =>
    Json.fieldOnce key p.classes (Json.listOf Class.read) fun a => { p with classes := some a }
  | "namespaces" =>
    Json.fieldOnce key p.namespaces (Json.listOf Namespace.read) fun a =>
      { p with namespaces := some a }
  | _ => Json.unknownField p

/-- Reads a unit. -/
def read : Json.Read CompilationUnit :=
  Json.record "TranslationUnit"
    (do
      let files ← Json.fieldAtOr [] 0 (Json.listOf SourceFile.read)
      let vars ← Json.fieldAtOr [] 1 (Json.listOf Variable.read)
      let functions ← Json.fieldAtOr [] 2 (Json.listOf Function.read)
      let classes ← Json.fieldAtOr [] 3 (Json.listOf Class.read)
      let namespaces ← Json.fieldAtOr [] 4 (Json.listOf Namespace.read)
      return ⟨files, vars, functions, classes, namespaces⟩)
    (do
      let p ← Json.entries Parts.step {}
      return {
        files := p.files.getD []
        vars := p.vars.getD []
        functions := p.functions.getD []
        classes := p.classes.getD []
        namespaces := p.namespaces.getD [] })

/-- The unit that a dump holds, its types in canonical spelling. -/
def parse (source : String) : Except Json.ReadError CompilationUnit := do
  return (← Json.document read source).canonicalized

end CompilationUnit

end NameLint

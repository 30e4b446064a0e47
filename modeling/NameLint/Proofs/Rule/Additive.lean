/-
Checking adds up.

What a rule finds in a unit is what it finds in the symbols of the unit, each taken alone.
So two units put together list by list have the violations of both and no others.  The
rule for include guards looks at the files only; the rule for names goes through the
categories of symbols one after another, and within a category those of the first unit
come first.

What it finds in one symbol is read off three things, none of which depends on other
symbols: the prefix that the name lacks, the entries that are consulted, and what the
symbol is called.
-/
import NameLint.Rule.Rule

namespace NameLint

/-! ### Units by category -/

/-- The kinds of lists that a unit consists of. -/
inductive Category where
  | files
  | vars
  | functions
  | classes
  | namespaces
deriving DecidableEq, Repr

/-- All categories, in the order in which units are checked. -/
def Category.all : List Category :=
  [files, vars, functions, classes, namespaces]

/-- The symbols of a category. -/
def CompilationUnit.symbolsOf (u : CompilationUnit) : Category → List Symbol
  | .files => u.files.map .file
  | .vars => u.vars.map .variable
  | .functions => u.functions.map .function
  | .classes => u.classes.map .class
  | .namespaces => u.namespaces.map .namespace

/-- The unit that holds one symbol and nothing else. -/
def CompilationUnit.single : Symbol → CompilationUnit
  | .file f => { files := [f] }
  | .variable v => { vars := [v] }
  | .function f => { functions := [f] }
  | .class c => { classes := [c] }
  | .namespace n => { namespaces := [n] }

namespace CompilationUnit

theorem symbols_eq_flatMap (u : CompilationUnit) :
    u.symbols = Category.all.flatMap u.symbolsOf := by
  simp [symbols, Category.all, symbolsOf]

@[simp]
theorem symbols_single (x : Symbol) : (single x).symbols = [x] := by
  cases x <;> rfl

@[simp]
theorem symbolsOf_append (u v : CompilationUnit) (c : Category) :
    (u.append v).symbolsOf c = u.symbolsOf c ++ v.symbolsOf c := by
  cases c <;> exact List.map_append

end CompilationUnit

/-! ### Include guards -/

theorem IncludeGuard.check_append (severity : Severity) (s : Settings) (u v : CompilationUnit) :
    check severity s (u.append v) = check severity s u ++ check severity s v := by
  unfold check
  cases s.includeGuard with
  | none => rfl
  | some policy => exact List.filterMap_append

/-- The settings that ask for no prefixes. -/
def Settings.withoutPrefixes (s : Settings) : Settings :=
  { s with variablePrefixes := {}, functionPrefixes := {} }

namespace Naming

/-! ### What is said of one symbol -/

/-- What a symbol is called in messages. -/
def label : Symbol → String
  | .file _ => "File name"
  | .variable v =>
    match v.scope with
    | .global => "Global variable"
    | .function => "Variable"
    | .publicMember => "Public member variable"
    | .privateMember => "Private member variable"
  | .function f => if f.isConstructor then "Class Constructor" else "Function"
  | .class _ => "Class"
  | .namespace _ => "Namespace"

/-- Where a symbol is: at its declaration, and a file is its own place as a whole. -/
def place : Symbol → Location
  | .file f => ⟨f.path, 0, 0⟩
  | .variable v => v.location
  | .function f => f.location
  | .class c => c.location
  | .namespace n => n.location

/-- The violation for a name without its prefix. -/
def prefixViolation (severity : Severity) (x : Symbol) : Violation where
  ruleId := "namingng-namingConvention"
  severity := severity
  location := place x
  message := label x ++ " " ++ x.name ++ " violates naming convention"

/-- The violation for a name that is bad by an entry, with the message of the entry. -/
def entryViolation (severity : Severity) (x : Symbol) (e : PatternEntry) : Violation where
  ruleId := "namingng-namingConvention"
  severity := severity
  location := place x
  message :=
    match e.message with
    | none => label x ++ " " ++ x.name ++ " violates naming convention"
    | some custom => label x ++ " " ++ x.name ++ " violates naming convention: " ++ custom

/-! ### What one symbol is asked for -/

/-- The key for the kind of symbols that a symbol is of. -/
def ownKey : Symbol → RuleKey
  | .file _ => .file
  | .variable v =>
    match v.scope with
    | .global => .globalVariable
    | .function => .variableName
    | .publicMember => .publicMember
    | .privateMember => .privateMember
  | .function _ => .functionName
  | .class _ => .className
  | .namespace _ => .namespaceName

/-- The rule that is consulted for a symbol, if any: the one under its own key, and for variables
whose scope has none that of all variables. -/
def consulted (s : Settings) : Symbol → Option RuleSpec
  | .variable v =>
    if s.skipOneCharVariables ∧ v.name.length = 1 then none
    else (s.rule (ownKey (.variable v))).or (s.rule .variableName)
  | x => s.rule (ownKey x)

/-- The entries of the rule for a symbol by which its name is bad. -/
def firing (s : Settings) (x : Symbol) : List PatternEntry :=
  ((consulted s x).elim [] RuleSpec.entries).filter fun e =>
    e.pattern.accepts x.name != e.expectedMatch

/-- The prefix that a table has for a type and that a name lacks. -/
def lackedPrefix (table : PrefixTable) (type name : String) : Option String :=
  (table.entries.lookup type).filter fun required => ¬ required.toList <+: name.toList

/-- The prefix that is asked of a symbol and that its name lacks. -/
def missingPrefix (s : Settings) : Symbol → Option String
  | .variable v => lackedPrefix s.variablePrefixes v.declaredType v.name
  | .function f =>
    if f.isConstructor ∨ f.returnType = "" then none
    else lackedPrefix s.functionPrefixes f.returnType f.name
  | _ => none

/-! ### One symbol -/

theorem lackedPrefix_eq_missing? (table : PrefixTable) (type name : String) :
    lackedPrefix table type name = table.missing? type name := by
  rw [lackedPrefix, PrefixTable.missing?, PrefixTable.find?]
  refine congrArg (Option.filter · _) (funext fun required => ?_)
  rw [decide_not, Bool.eq_iff_iff.mpr (decide_eq_true_iff.trans List.isPrefixOf_iff_prefix.symm)]

theorem label_variable (v : Variable) : label (.variable v) = scopeLabel v.scope := by
  unfold label scopeLabel
  rfl

theorem ownKey_variable (v : Variable) : ownKey (.variable v) = scopeKey v.scope := by
  unfold ownKey scopeKey
  rfl

theorem location_eq_place (x : Symbol) : location x = place x := by
  cases x <;> rfl

theorem consulted_variable (s : Settings) (v : Variable) : consulted s (.variable v)
    = if s.skipOneCharVariables ∧ v.name.length = 1 then none else scopeRule s v.scope := by
  rw [consulted, ownKey_variable, scopeRule]
  cases s.rule (scopeKey v.scope) <;> rfl

theorem prefixComplaints_eq (table : PrefixTable) (type label name : String) :
    prefixComplaints table type label name
      = (lackedPrefix table type name).toList.map fun _ => complaint label name := by
  rw [prefixComplaints, lackedPrefix_eq_missing?]
  cases table.missing? type name <;> rfl

theorem patternComplaints_eq (spec : Option RuleSpec) (label name : String) :
    patternComplaints spec label name
      = ((spec.elim [] RuleSpec.entries).filter fun e =>
          e.pattern.accepts name != e.expectedMatch).map (entryComplaint label name) := by
  cases spec <;> rfl

theorem complaints_eq (s : Settings) (x : Symbol) :
    complaints s x = ((missingPrefix s x).toList.map fun _ => complaint (label x) x.name)
      ++ (firing s x).map (entryComplaint (label x) x.name) := by
  match x with
  | .file f => exact patternComplaints_eq _ _ _
  | .variable v =>
      rw [complaints, variableComplaints, prefixComplaints_eq, patternComplaints_eq, label_variable]
      congr 1
      rw [firing, consulted_variable]
      split <;> rfl
  | .function f =>
      rw [complaints, functionComplaints, prefixComplaints_eq, patternComplaints_eq, missingPrefix]
      congr 1
      split <;> rfl
  | .class c => exact patternComplaints_eq _ _ _
  | .namespace n => exact patternComplaints_eq _ _ _

theorem complaint_custom (label name custom : String) : complaint label name ++ ": " ++ custom
    = label ++ " " ++ name ++ " violates naming convention: " ++ custom := by
  have htext : " violates naming convention: " = " violates naming convention" ++ ": " := rfl
  rw [complaint, htext, ← String.append_assoc]

theorem entryViolation_eq (severity : Severity) (x : Symbol) (e : PatternEntry) :
    entryViolation severity x e
      = ⟨violationId, severity, location x, entryComplaint (label x) x.name e⟩ := by
  rw [entryViolation, entryComplaint, location_eq_place]
  cases e.message with
  | none => rfl
  | some custom => exact congrArg (Violation.mk _ severity (place x)) (complaint_custom _ _ _).symm

/-- A symbol has a violation for the prefix it lacks, and one for each entry that fires. -/
theorem checkSymbol_eq (severity : Severity) (s : Settings) (x : Symbol) :
    checkSymbol severity s x = ((missingPrefix s x).toList.map fun _ => prefixViolation severity x)
      ++ (firing s x).map (entryViolation severity x) := by
  rw [checkSymbol, complaints_eq, List.map_append, List.map_map, List.map_map,
    funext (entryViolation_eq severity x), prefixViolation, ← location_eq_place]
  rfl

@[simp]
theorem missingPrefix_withoutPrefixes (s : Settings) (x : Symbol) :
    missingPrefix s.withoutPrefixes x = none := by
  match x with
  | .file _ | .variable _ | .class _ | .namespace _ => rfl
  | .function f => exact ite_self none

@[simp]
theorem firing_withoutPrefixes (s : Settings) (x : Symbol) :
    firing s.withoutPrefixes x = firing s x := by
  cases x <;> rfl

/-- Without prefixes there is nothing to report but what the entries of the rule give. -/
@[simp]
theorem checkSymbol_withoutPrefixes (severity : Severity) (s : Settings) (x : Symbol) :
    checkSymbol severity s.withoutPrefixes x = (firing s x).map (entryViolation severity x) := by
  rw [checkSymbol_eq, missingPrefix_withoutPrefixes, firing_withoutPrefixes]
  rfl

@[simp]
theorem check_single (severity : Severity) (s : Settings) (x : Symbol) :
    check severity s (.single x) = checkSymbol severity s x := by
  rw [check, CompilationUnit.symbols_single, List.flatMap_singleton]

/-! ### Units -/

theorem check_eq_flatMap_single (severity : Severity) (s : Settings) (u : CompilationUnit) :
    check severity s u = u.symbols.flatMap fun x => check severity s (.single x) := by
  simp only [check_single]
  rfl

end Naming

/--
**Checking a unit is checking its symbols.**  Two units together have the violations about
guards of the first and then of the second; of names, category by category, those of the
symbols of the first and then of the second, each symbol taken alone.  A symbol alone has
one violation for a prefix that it lacks and then one for each entry that fires on its
name, in the order of the rule.
-/
theorem check_append_and_single (severity : Severity) (s : Settings) :
    (∀ u v : CompilationUnit, IncludeGuard.check severity s (u.append v)
        = IncludeGuard.check severity s u ++ IncludeGuard.check severity s v) ∧
      (∀ u v : CompilationUnit, Naming.check severity s (u.append v) = Category.all.flatMap fun c =>
        (u.symbolsOf c).flatMap (fun x => Naming.check severity s (.single x))
          ++ (v.symbolsOf c).flatMap (fun x => Naming.check severity s (.single x))) ∧
      ∀ x : Symbol, Naming.check severity s (.single x)
        = ((Naming.missingPrefix s x).toList.map fun _ => Naming.prefixViolation severity x)
          ++ (Naming.firing s x).map (Naming.entryViolation severity x) := by
  refine ⟨IncludeGuard.check_append severity s, fun u v => ?_, fun x => ?_⟩
  · rw [Naming.check_eq_flatMap_single, CompilationUnit.symbols_eq_flatMap, List.flatMap_assoc]
    simp only [CompilationUnit.symbolsOf_append, List.flatMap_append]
  · rw [Naming.check_single, Naming.checkSymbol_eq]

end NameLint

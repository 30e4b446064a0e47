/-
Rule keys: the kinds of symbols that have naming rules of their own.
-/

namespace NameLint

/-- A kind of symbols with a naming rule. -/
inductive RuleKey where
  /-- Files. -/
  | file
  /-- Classes. -/
  | className
  /-- Namespaces. -/
  | namespaceName
  /-- Variables without a rule for their scope. -/
  | variableName
  /-- Public members of classes. -/
  | publicMember
  /-- Private members of classes. -/
  | privateMember
  /-- Variables outside of functions and classes. -/
  | globalVariable
  /-- Functions. -/
  | functionName
deriving DecidableEq, Repr, Inhabited

namespace RuleKey

/-- All kinds. -/
def all : List RuleKey :=
  [file, className, namespaceName, variableName, publicMember, privateMember, globalVariable,
    functionName]

/-- The key under which a configuration holds the rule. -/
def text : RuleKey → String
  | file => "RE_FILE"
  | className => "RE_CLASS_NAME"
  | namespaceName => "RE_NAMESPACE"
  | variableName => "RE_VARNAME"
  | publicMember => "RE_PUBLIC_MEMBER_VARIABLE"
  | privateMember => "RE_PRIVATE_MEMBER_VARIABLE"
  | globalVariable => "RE_GLOBAL_VARNAME"
  | functionName => "RE_FUNCTIONNAME"

/-- The kind whose rule stands under a key. -/
def ofText? (key : String) : Option RuleKey :=
  all.find? fun k => k.text = key

end RuleKey

end NameLint

import CanonicalSdl.Document.Basic

/-!
# Executable definitions

Operations and fragments, as far as their canonical text needs them: with arguments as they are
written.
-/

namespace CanonicalSdl

/-- What is selected of a type. -/
inductive Selection where
  /-- A field with its alias, arguments, directives and what is selected of its type. -/
  | field (responseName : Option String) (name : String) (arguments : List (String × Value))
      (directives : List Directive) (selections : List Selection)
  /-- The selections of a fragment. -/
  | spread (name : String) (directives : List Directive)
  /-- Selections, on a condition on the type if one is given. -/
  | inline (condition : Option String) (directives : List Directive) (selections : List Selection)

/-- The definition of a variable of an operation. -/
structure VariableDefinition where
  name : String
  type : TypeRef
  defaultValue : Option Value

/-- The kinds of operations. -/
inductive OperationKind where
  | query
  | mutation
  | subscription
  deriving DecidableEq

/-- An operation or a fragment. -/
inductive Executable where
  /-- A query that is nothing but its selections. -/
  | selections (selections : List Selection)
  | operation (kind : OperationKind) (name : Option String)
      (definitions : List VariableDefinition) (directives : List Directive)
      (selections : List Selection)
  | fragment (name : String) (condition : String) (directives : List Directive)
      (selections : List Selection)

/-- The name of an operation or a fragment. -/
def Executable.name? : Executable → Option String
  | .selections _ => none
  | .operation _ name _ _ _ => name
  | .fragment name _ _ _ => some name

end CanonicalSdl

import CanonicalSdl.Executable.Basic
import CanonicalSdl.Source.Extension

/-!
# The canonical source of operations and fragments
-/

namespace CanonicalSdl.Source

/-! ### Selections -/

mutual

/-- A selection on lines of its own. -/
def selectionText (indent : Nat) : Selection → String
  | .field responseName name arguments directives selections =>
    spaces indent ++ (responseName.map (· ++ ": ")).getD "" ++ name ++
      argumentsText (literals indent) arguments ++ directivesText (literals indent) directives ++
      bracedAfter indent (selectionTexts (indent + step) selections)
  | .spread name directives =>
    spaces indent ++ "..." ++ name ++ directivesText (literals indent) directives ++ "\n"
  | .inline condition directives selections =>
    spaces indent ++ "..." ++ (condition.map (" on " ++ ·)).getD "" ++
      directivesText (literals indent) directives ++ " " ++
      braced indent (selectionTexts (indent + step) selections)

/-- The texts of selections. -/
def selectionTexts (indent : Nat) : List Selection → List String
  | [] => []
  | selection :: selections => selectionText indent selection :: selectionTexts indent selections

end

/-! ### Operations and fragments -/

/-- The definition of a variable. -/
def variableText (v : VariableDefinition) : String :=
  "$" ++ v.name ++ ": " ++ v.type.text ++ defaultText (literals 0) v.defaultValue

/-- The definitions of variables in parentheses; nothing if there are none. -/
def variablesText (separator : String) (definitions : List VariableDefinition) : String :=
  if definitions.isEmpty then ""
  else "(" ++ separator.intercalate (definitions.map variableText) ++ ")"

/-- The keyword of an operation. -/
def operationKeyword : OperationKind → String
  | .query => "query"
  | .mutation => "mutation"
  | .subscription => "subscription"

/-- What stands between the keyword of an operation and its directives. The variables of a
subscription have no separator, and are left out if it has no name. -/
def operationHead (kind : OperationKind) (name : Option String)
    (definitions : List VariableDefinition) : String :=
  match kind, name with
  | .subscription, none => ""
  | .subscription, some name => " " ++ name ++ variablesText "" definitions
  | _, none => variablesText ", " definitions
  | _, some name => " " ++ name ++ variablesText ", " definitions

/-- An operation or a fragment. -/
def executable : Executable → String
  | .selections selections => braced 0 (selectionTexts step selections)
  | .operation kind name definitions directives selections =>
    operationKeyword kind ++ operationHead kind name definitions ++
      directivesText (literals 0) directives ++ " " ++ braced 0 (selectionTexts step selections)
  | .fragment name condition directives selections =>
    "fragment " ++ name ++ " on " ++ condition ++ directivesText (literals 0) directives ++ " " ++
      braced 0 (selectionTexts step selections)

end CanonicalSdl.Source

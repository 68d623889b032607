import CanonicalSdl.Executable.Basic
import CanonicalSdl.Grammar.Value

/-!
# The grammar of executable definitions

Selections, operations and fragments.
-/

namespace CanonicalSdl.Production

open Reader

/-! ### Selections -/

/-- Whether a token can begin a selection. -/
def beginsSelection : Token → Bool
  | .name _ => true
  | .spread => true
  | _ => false

/-- Reads a selection, given how the selections inside one are read: those that have to be there
and those that may be. -/
def selectionWith (inner inner? : Production (List Selection)) : Production Selection := do
  if ← accept .spread then
    let following ← next
    if following = some (.name "on") then
      keyword "on"
      let condition ← name
      let directives ← directives
      return .inline condition directives (← inner)
    else if following = some (.punctuator '@') || following = some (.punctuator '\x7b') then
      let directives ← directives
      return .inline none directives (← inner)
    else
      let name ← name
      let directives ← directives
      return .spread name directives
  else
    let first ← name
    if ← accept (.punctuator ':') then
      let second ← name
      let arguments ← arguments?
      let directives ← directives
      return .field (some first) second arguments directives (← inner?)
    else
      let arguments ← arguments?
      let directives ← directives
      return .field none first arguments directives (← inner?)

/-- Reads selections in braces that nest at most `depth` deep, themselves included. -/
def selectionsOfDepth : Nat → Production (List Selection)
  | 0 => failure
  | depth + 1 =>
    let inner := selectionsOfDepth depth
    let inner? : Production (List Selection) := do
      if (← next) = some (.punctuator '\x7b') then inner else return []
    enclosed '\x7b' '\x7d' beginsSelection (selectionWith inner inner?)

/-- Reads selections in braces. -/
def selections : Production (List Selection) :=
  selectionsOfDepth Token.maxNesting

/-! ### Operations and fragments -/

/-- Reads the definition of a variable. -/
def variableDefinition : Production VariableDefinition := do
  punctuator '$'
  let name ← name
  punctuator ':'
  let type ← type
  let defaultValue ← defaultValue?
  return ⟨name, type, defaultValue⟩

/-- Reads what follows the keyword of an operation. -/
def operationAfter (kind : OperationKind) : Production Executable := do
  let name ← name?
  let definitions ← enclosed? '(' ')' (· = .punctuator '$') variableDefinition
  let directives ← directives
  return .operation kind name definitions directives (← selections)

/-- Reads what follows the keyword of a fragment. -/
def fragmentAfter : Production Executable := do
  let name ← name
  keyword "on"
  let condition ← Production.name
  let directives ← directives
  return .fragment name condition directives (← selections)

/-- Reads an operation or a fragment. -/
def executable : Production Executable := do
  if (← next) = some (.punctuator '\x7b') then return .selections (← selections)
  else
    let keyword ← name
    if keyword = "query" then operationAfter .query
    else if keyword = "mutation" then operationAfter .mutation
    else if keyword = "subscription" then operationAfter .subscription
    else if keyword = "fragment" then fragmentAfter
    else failure

/-- Reads one or more operations and fragments. -/
def executables : Production (List Executable) :=
  many1 (fun token => isName token || token = .punctuator '\x7b') executable

end CanonicalSdl.Production

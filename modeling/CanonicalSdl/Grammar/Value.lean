import CanonicalSdl.Document.Basic
import CanonicalSdl.Grammar.Production
import CanonicalSdl.Token.Lexer

/-!
# The grammar of values, types and directives

Values, type references, directives and the definitions of arguments, which all kinds of
definitions share. Constant values hold no variables.
-/

namespace CanonicalSdl.Production

open Reader

/-! ### Values -/

/-- Sets the value of a field in a list of fields that is ordered by name. -/
def insertField (name : String) (value : Value) : List (String × Value) → List (String × Value)
  | [] => [(name, value)]
  | field :: fields =>
    if name < field.1 then (name, value) :: field :: fields
    else if name = field.1 then (name, value) :: fields
    else field :: insertField name value fields

/-- The object with given fields. It is ordered by name, and of fields with one name it keeps the
last. -/
def objectOf (fields : List (String × Value)) : Value :=
  .object (fields.foldl (fun object field => insertField field.1 field.2 object) [])

/-- The value that a name stands for. -/
def namedValue (name : String) : Value :=
  if name = "true" then .boolean true
  else if name = "false" then .boolean false
  else if name = "null" then .null
  else .enum name

/-- Whether a token can begin a value. -/
def beginsValue (variablesAllowed : Bool) : Token → Bool
  | .punctuator c => c = '[' || c = '\x7b' || (variablesAllowed && c = '$')
  | .spread => false
  | _ => true

/-- Reads a value that is no list or object. -/
def scalarValue (variablesAllowed : Bool) : Production Value
  | .name s :: rest => some (namedValue s, rest)
  | .int i :: rest => some (.int i, rest)
  | .float x :: rest => some (.float x, rest)
  | .string s :: rest => some (.string s, rest)
  | .punctuator '$' :: .name s :: rest =>
    if variablesAllowed then some (.variableName s, rest) else none
  | _ => none

/-- Reads a value in which at most `depth` lists and objects are nested. -/
def valueOfDepth (variablesAllowed : Bool) : Nat → Production Value
  | 0 => scalarValue variablesAllowed
  | depth + 1 => do
    if ← accept (.punctuator '[') then
      let values ← many (beginsValue variablesAllowed) (valueOfDepth variablesAllowed depth)
      punctuator ']'
      return .list values
    else if ← accept (.punctuator '\x7b') then
      let fields ← many isName do
        let name ← name
        punctuator ':'
        let value ← valueOfDepth variablesAllowed depth
        return (name, value)
      punctuator '\x7d'
      return objectOf fields
    else scalarValue variablesAllowed

/-- Reads a value. Brackets nest no deeper in the tokens of any text. -/
def value (variablesAllowed : Bool) : Production Value :=
  valueOfDepth variablesAllowed Token.maxNesting

/-! ### Types -/

/-- Reads the mark of a non-null type if it comes next. -/
def nullability (type : TypeRef) : Production TypeRef := do
  if ← accept (.punctuator '!') then return .nonNull type else return type

/-- Reads a type reference in which at most `depth` lists are nested. -/
def typeOfDepth : Nat → Production TypeRef
  | 0 => do nullability (.named (← name))
  | depth + 1 => do
    if ← accept (.punctuator '[') then
      let inner ← typeOfDepth depth
      punctuator ']'
      nullability (.list inner)
    else nullability (.named (← name))

/-- Reads a type reference. -/
def type : Production TypeRef :=
  typeOfDepth Token.maxNesting

/-! ### Directives and arguments -/

/-- Reads a named value. -/
def argument : Production (String × Value) := do
  let name ← name
  punctuator ':'
  let value ← value true
  return (name, value)

/-- Reads arguments in parentheses, if there are any. -/
def arguments? : Production (List (String × Value)) :=
  enclosed? '(' ')' isName argument

/-- Reads the application of a directive, with its arguments as they are written. -/
def directive : Production Directive := do
  punctuator '@'
  let name ← name
  let arguments ← arguments?
  return ⟨name, arguments⟩

/-- Reads the applications of directives. -/
def directives : Production (List Directive) :=
  many (· = .punctuator '@') directive

/-- Reads a default value, if there is one. -/
def defaultValue? : Production (Option Value) := do
  if ← accept (.punctuator '=') then return some (← value false) else return none

/-- Reads the definition of an argument or of a field of an input object. -/
def inputValue : Production InputValue := do
  let description ← string?
  let name ← name
  punctuator ':'
  let type ← type
  let defaultValue ← defaultValue?
  let directives ← directives
  return ⟨description, name, type, defaultValue, directives⟩

/-- Reads the definitions of arguments in parentheses, if there are any. -/
def argumentDefinitions? : Production (List InputValue) :=
  enclosed? '(' ')' isNameOrString inputValue

end CanonicalSdl.Production

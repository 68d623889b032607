import CanonicalSdl.Grammar.Value

/-!
# The grammar of type systems

Schema, directive and type definitions, and extensions of types. The keywords are names like any
other wherever the grammar does not ask for a keyword.
-/

namespace CanonicalSdl.Production

open Reader

/-! ### Bodies of types -/

/-- Reads a field of an object or interface type. -/
def field : Production Field := do
  let description ← string?
  let name ← name
  let arguments ← argumentDefinitions?
  punctuator ':'
  let type ← type
  let directives ← directives
  return ⟨description, name, arguments, type, directives⟩

/-- Reads fields in braces, if there are any. -/
def fields? : Production (List Field) :=
  enclosed? '\x7b' '\x7d' isNameOrString field

/-- Reads the interfaces that a type lists, if there are any. -/
def interfaces? : Production (List String) := do
  if ← accept (.name "implements") then
    let _ ← accept (.punctuator '&')
    separated (.punctuator '&') name
  else return []

/-- Reads a value of an enum type. -/
def enumValue : Production EnumValue := do
  let description ← string?
  let name ← name
  let directives ← directives
  return ⟨description, name, directives⟩

/-- Reads the members of a union type, if there are any. -/
def members? : Production (List String) := do
  if ← accept (.punctuator '=') then
    let _ ← accept (.punctuator '|')
    separated (.punctuator '|') name
  else return []

/-- Reads what follows the keyword of a type definition. -/
def typeAfter (keyword : String) (description : Option String) : Production TypeDefinition := do
  let name ← name
  if keyword = "scalar" then
    let directives ← directives
    return ⟨description, name, directives, .scalar⟩
  else if keyword = "type" then
    let interfaces ← interfaces?
    let directives ← directives
    let fields ← fields?
    return ⟨description, name, directives, .object interfaces fields⟩
  else if keyword = "interface" then
    let interfaces ← interfaces?
    let directives ← directives
    let fields ← fields?
    return ⟨description, name, directives, .interface interfaces fields⟩
  else if keyword = "union" then
    let directives ← directives
    let members ← members?
    return ⟨description, name, directives, .union members⟩
  else if keyword = "enum" then
    let directives ← directives
    let values ← enclosed? '\x7b' '\x7d' isNameOrString enumValue
    return ⟨description, name, directives, .enum values⟩
  else if keyword = "input" then
    let directives ← directives
    let fields ← enclosed? '\x7b' '\x7d' isNameOrString inputValue
    return ⟨description, name, directives, .input fields⟩
  else failure

/-- Whether an extension of a type has anything in it. Interfaces alone extend an object type but
no interface type. -/
def extendsSomething (t : TypeDefinition) : Bool :=
  !t.directives.isEmpty ||
    match t.body with
    | .scalar => false
    | .input fields => !fields.isEmpty
    | .object interfaces fields => !interfaces.isEmpty || !fields.isEmpty
    | .interface _ fields => !fields.isEmpty
    | .enum values => !values.isEmpty
    | .union members => !members.isEmpty

/-- Reads what follows the keyword of an extension, as a type that holds what is added. -/
def extensionBody : Production TypeDefinition := do
  let keyword ← name
  let t ← typeAfter keyword none
  if extendsSomething t then return t else failure

/-! ### Directive definitions -/

/-- The places in which a directive can be applied. -/
def directiveLocations : List String :=
  ["QUERY", "MUTATION", "SUBSCRIPTION", "FIELD", "FRAGMENT_DEFINITION", "FRAGMENT_SPREAD",
    "INLINE_FRAGMENT", "SCHEMA", "SCALAR", "OBJECT", "FIELD_DEFINITION", "ARGUMENT_DEFINITION",
    "INTERFACE", "UNION", "ENUM", "ENUM_VALUE", "INPUT_OBJECT", "INPUT_FIELD_DEFINITION",
    "VARIABLE_DEFINITION"]

/-- Reads the name of a place in which a directive can be applied. -/
def location : Production String := do
  let name ← name
  if directiveLocations.contains name then return name else failure

/-- Reads the places in which a directive can be applied. There may be none, but a name that comes
next has to be one. -/
def locations? : Production (List String) := do
  let bar ← accept (.punctuator '|')
  if bar || (← next).any isName then separated (.punctuator '|') location else return []

/-- Reads what follows the keyword of a directive definition. -/
def directiveAfter (description : Option String) : Production DirectiveDefinition := do
  punctuator '@'
  let name ← name
  let arguments ← argumentDefinitions?
  let repeatable ← accept (.name "repeatable")
  keyword "on"
  let locations ← locations?
  return ⟨description, name, arguments, repeatable, locations⟩

/-! ### Schema definitions -/

/-- Reads the type of a root operation. -/
def rootOperation : Production (String × String) := do
  let operation ← name
  punctuator ':'
  let type ← name
  return (operation, type)

/-- Whether operations are root operations and none is named twice. -/
def areRootOperations : List (String × String) → Bool
  | [] => true
  | root :: roots =>
    ["query", "mutation", "subscription"].contains root.1 &&
      !(roots.any (·.1 = root.1)) && areRootOperations roots

/-- Reads what follows the keyword of a schema definition. -/
def schemaAfter : Production SchemaDefinition := do
  let directives ← directives
  punctuator '\x7b'
  let roots ← many isName rootOperation
  punctuator '\x7d'
  if areRootOperations roots then
    return {
      directives
      query := roots.lookup "query"
      mutation := roots.lookup "mutation"
      subscription := roots.lookup "subscription" }
  else failure

/-! ### Definitions -/

/-- What a top-level definition of a type system denotes, with arguments as they are written. -/
inductive TypeSystemItem where
  | schema (definition : SchemaDefinition)
  | directive (definition : DirectiveDefinition)
  | type (definition : TypeDefinition)
  /-- An extension, as a type that holds what is added. -/
  | extension (addition : TypeDefinition)

/-- Reads a top-level definition. Schema definitions and extensions have no description. -/
def typeSystemItem : Production TypeSystemItem := do
  if ← accept (.name "schema") then return .schema (← schemaAfter)
  else if ← accept (.name "extend") then return .extension (← extensionBody)
  else
    let description ← string?
    let keyword ← name
    if keyword = "directive" then return .directive (← directiveAfter description)
    else return .type (← typeAfter keyword description)

/-- Reads one or more top-level definitions. -/
def typeSystem : Production (List TypeSystemItem) :=
  many1 isNameOrString typeSystemItem

end CanonicalSdl.Production

import CanonicalSdl.TypeRef
import CanonicalSdl.Value

/-!
# Documents

A document is a list of top-level definitions. Type system definitions are held in full;
operations, fragments and extensions only as text.

The order of the definitions carries meaning once a document is in its normal form
(`CanonicalSdl.Document.Normal`); until then it is that of their declaration.

Equality is equality of all contents; `==` compares floating-point numbers as numbers, and the
arguments of a directive by name.
-/

namespace CanonicalSdl

/-! ### Directives -/

/-- The application of a directive. In a document each argument is named once, as in what
`Directive.ofPairs` makes. -/
structure Directive where
  name : String
  arguments : List (String × Value)
  deriving DecidableEq

namespace Directive

/-- Sets the value of an argument: in its place if it has one, at the end otherwise. -/
def setArgument (name : String) (value : Value) : List (String × Value) → List (String × Value)
  | [] => [(name, value)]
  | argument :: rest =>
    if argument.1 = name then (name, value) :: rest
    else argument :: setArgument name value rest

/-- The application of a directive to arguments that may be repeated: an argument has the place
where it was first given and the value last given. -/
def ofPairs (name : String) (pairs : List (String × Value)) : Directive where
  name := name
  arguments := pairs.foldl (fun arguments pair => setArgument pair.1 pair.2 arguments) []

/-- The value last given for an argument. -/
def argument? (d : Directive) (name : String) : Option Value :=
  d.arguments.reverse.lookup name

/-- Arguments compare by name, whatever their order. -/
instance : BEq Directive where
  beq d e :=
    d.name == e.name && d.arguments.length == e.arguments.length &&
      d.arguments.all fun argument => (e.argument? argument.1).any (argument.2 == ·)

example : (ofPairs "d" [("a", .null), ("b", .null), ("a", .boolean true)]).arguments =
    [("a", .boolean true), ("b", .null)] := by decide

end Directive

/-! ### Types -/

/-- An argument, or a field of an input object type. -/
structure InputValue where
  description : Option String := none
  name : String
  type : TypeRef
  defaultValue : Option Value := none
  directives : List Directive := []
  deriving BEq, DecidableEq

/-- A field of an object or interface type. -/
structure Field where
  description : Option String := none
  name : String
  arguments : List InputValue := []
  type : TypeRef
  directives : List Directive := []
  deriving BEq, DecidableEq

/-- A value of an enum type. -/
structure EnumValue where
  description : Option String := none
  name : String
  directives : List Directive := []
  deriving BEq, DecidableEq

/-- What the kinds of types differ in. -/
inductive TypeBody where
  | scalar
  | input (fields : List InputValue)
  | object (implements : List String) (fields : List Field)
  | interface (implements : List String) (fields : List Field)
  | enum (values : List EnumValue)
  | union (members : List String)
  deriving BEq, DecidableEq

/-- The definition of a type. -/
structure TypeDefinition where
  description : Option String := none
  name : String
  directives : List Directive := []
  body : TypeBody
  deriving BEq, DecidableEq

namespace TypeDefinition

/-- Whether the type is an object type. -/
def isObject (t : TypeDefinition) : Bool :=
  match t.body with
  | .object _ _ => true
  | _ => false

/-- The interfaces that an object or interface type lists. -/
def implements (t : TypeDefinition) : List String :=
  match t.body with
  | .object interfaces _ => interfaces
  | .interface interfaces _ => interfaces
  | _ => []

/-- The fields of an object or interface type. -/
def fields (t : TypeDefinition) : List Field :=
  match t.body with
  | .object _ fields => fields
  | .interface _ fields => fields
  | _ => []

/-- The first directive with a given name. -/
def directive? (t : TypeDefinition) (name : String) : Option Directive :=
  t.directives.find? (·.name == name)

end TypeDefinition

/-- The names of the scalar types that need no definition. -/
def builtinScalars : List String :=
  ["ID", "String", "Int", "Float", "Boolean"]

/-! ### Definitions -/

/-- The definition of a directive. -/
structure DirectiveDefinition where
  description : Option String := none
  name : String
  arguments : List InputValue := []
  repeatable : Bool := false
  locations : List String := []
  deriving BEq, DecidableEq

/-- A schema definition: its directives and the names of the root operation types. -/
structure SchemaDefinition where
  description : Option String := none
  directives : List Directive := []
  query : Option String := none
  mutation : Option String := none
  subscription : Option String := none
  deriving BEq, DecidableEq

/-- A definition that is kept as canonical text and never looked into. -/
structure Verbatim where
  name : Option String
  source : String
  deriving DecidableEq

/-- A top-level definition. -/
inductive Definition where
  /-- An operation or a fragment. -/
  | executable (verbatim : Verbatim)
  /-- An extension of a type. -/
  | extension (verbatim : Verbatim)
  | directive (definition : DirectiveDefinition)
  | schema (definition : SchemaDefinition)
  | type (definition : TypeDefinition)
  deriving BEq, DecidableEq

namespace Definition

/-- Whether the definition is one of the type system, rather than kept as text. -/
def isTypeSystem : Definition → Bool
  | executable _ => false
  | extension _ => false
  | directive _ => true
  | schema _ => true
  | type _ => true

/-- The directive definition that a definition is. -/
def directive? : Definition → Option DirectiveDefinition
  | directive definition => some definition
  | _ => none

/-- The schema definition that a definition is. -/
def schema? : Definition → Option SchemaDefinition
  | schema definition => some definition
  | _ => none

/-- The type definition that a definition is. -/
def type? : Definition → Option TypeDefinition
  | type definition => some definition
  | _ => none

end Definition

/-! ### Documents -/

/-- A sequence of top-level definitions. -/
structure Document where
  definitions : List Definition := []
  deriving BEq, DecidableEq

namespace Document

instance : Append Document where
  append d e := ⟨d.definitions ++ e.definitions⟩

/-- The first schema definition. -/
def schema? (d : Document) : Option SchemaDefinition :=
  d.definitions.findSome? Definition.schema?

/-- The type definitions, in order. -/
def types (d : Document) : List TypeDefinition :=
  d.definitions.filterMap Definition.type?

/-- The directive definitions, in order. -/
def directiveDefinitions (d : Document) : List DirectiveDefinition :=
  d.definitions.filterMap Definition.directive?

/-- The object types, in order. -/
def objects (d : Document) : List TypeDefinition :=
  d.types.filter TypeDefinition.isObject

/-- Whether the document has any type system definition. -/
def hasTypeSystem (d : Document) : Bool :=
  d.definitions.any Definition.isTypeSystem

end Document

end CanonicalSdl

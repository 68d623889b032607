import CanonicalSdl.Document.Normal

/-!
# Schemas

A document is resolved into a schema: its root operation types, and a pool of all types known by
name. The pool holds the types of the document and then the external types, from other sources,
whose names the document does not define.

A root operation type is the first type of the pool with the root's name: the name that the
document's first schema definition declares, or the conventional one. A declared name has to be
that of an object type. Without a query root there is no schema; a subscription root that cannot
be resolved is left out, as no rendering shows it.
-/

namespace CanonicalSdl

/-- The root operations. -/
inductive RootOperation where
  | query
  | mutation
  | subscription
  deriving DecidableEq

namespace RootOperation

/-- The word for an operation. -/
def word : RootOperation → String
  | query => "query"
  | mutation => "mutation"
  | subscription => "subscription"

/-- The name of the root type of an operation for which none is declared. -/
def conventionalName : RootOperation → String
  | query => "Query"
  | mutation => "Mutation"
  | subscription => "Subscription"

end RootOperation

/-- The name of the root type that a schema definition declares for an operation. -/
def SchemaDefinition.root? (s : SchemaDefinition) : RootOperation → Option String
  | .query => s.query
  | .mutation => s.mutation
  | .subscription => s.subscription

/-- Why a document cannot be resolved into a schema. -/
inductive ResolutionError where
  /-- No type has the declared name. -/
  | undefinedRoot (operation : RootOperation) (name : String)
  /-- The type with the declared name is no object type. -/
  | notAnObject (operation : RootOperation) (name : String)
  deriving DecidableEq

/-- The text of an error. -/
def ResolutionError.message : ResolutionError → String
  | undefinedRoot operation name =>
    "the " ++ operation.word ++ " root type \x60" ++ name ++ "\x60 is not defined"
  | notAnObject operation name =>
    "the " ++ operation.word ++ " root type \x60" ++ name ++ "\x60 must be an object type"

/-- A resolved schema. -/
structure Schema where
  query : TypeDefinition
  mutation : Option TypeDefinition
  subscription : Option TypeDefinition
  /-- The pool of types. -/
  types : List TypeDefinition

namespace Schema

/-- The pool of types for a document, given the external types in the order of their
registration. -/
def pool (external : List TypeDefinition) (d : Document) : List TypeDefinition :=
  d.types ++
    (external.map TypeDefinition.normal).filter fun t =>
      !d.types.any fun defined => defined.name == t.name

/-- The root type of an operation, given the name that is declared for it. -/
def rootType (types : List TypeDefinition) (operation : RootOperation)
    (declared : Option String) : Except ResolutionError (Option TypeDefinition) :=
  match declared with
  | some name =>
    match types.find? (·.name == name) with
    | some t => if t.isObject then .ok (some t) else .error (.notAnObject operation name)
    | none => .error (.undefinedRoot operation name)
  | none =>
    match types.find? (·.name == operation.conventionalName) with
    | some t => if t.isObject then .ok (some t) else .ok none
    | none => .ok none

/-- The schema of a document, if it has a query root. -/
def ofDocument (external : List TypeDefinition) (d : Document) :
    Except ResolutionError (Option Schema) := do
  let types := pool external d
  let declared (operation : RootOperation) : Option String :=
    d.schema?.bind (·.root? operation)
  let query ← rootType types .query (declared .query)
  let mutation ← rootType types .mutation (declared .mutation)
  let subscription := (rootType types .subscription (declared .subscription)).toOption.join
  return query.map fun query => { query, mutation, subscription, types }

/-- The first type with a given name. -/
def get? (s : Schema) (name : String) : Option TypeDefinition :=
  s.types.find? (·.name == name)

end Schema

end CanonicalSdl

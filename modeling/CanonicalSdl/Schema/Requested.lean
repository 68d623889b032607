import CanonicalSdl.Schema.Closure

/-!
# Requested types

An object type asks for further types of the pool with a directive, as in
`@extends(types: ["Extra"])`. The elements of the list are matched by their literal texts against
the quoted names of types, so that only strings can match.
-/

namespace CanonicalSdl

/-- The name of the directive that asks for types. -/
def requestDirective : String := "extends"

/-- The name of the argument that lists them. -/
def requestArgument : String := "types"

/-- The literal texts in the list of the first directive of a type that asks for types. An
argument that is missing or no list asks for none. -/
def TypeDefinition.requestedNames (t : TypeDefinition) : List String :=
  let argument := (t.directive? requestDirective).bind (·.argument? requestArgument)
  match argument.bind Value.elements? with
  | some values => values.map Value.text
  | none => []

/-- The quoted names of the types that the object types of a document ask for, in order and as
often as they are asked for. -/
def Document.requestedNames (d : Document) : List String :=
  d.objects.flatMap TypeDefinition.requestedNames

/-- The types that can be reached from the types with the given quoted names. -/
def Schema.requestedTypes (s : Schema) (quotedNames : List String) : List TypeDefinition :=
  s.typesFrom
    ((s.types.filter fun t => quotedNames.contains (Text.quoted t.name)).map (·.name))

end CanonicalSdl

import CanonicalSdl.Rendition.Text

/-!
# Canonical schema text

A document is brought into its normal form and resolved into a schema; what is rendered of it is
the types that its roots reach, those that its object types ask for, and its directives and
directive definitions. Documents without a type system, or without a query root, are rendered as
nothing.
-/

namespace CanonicalSdl

namespace Document

/-- What is rendered of a document that is in its normal form, given its schema. -/
def renditionOf (d : Document) (s : Schema) : Rendition :=
  Rendition.ofSchema s
    |>.addDirectives ((d.schema?.map (·.directives)).getD [])
    |>.addDirectiveDefinitions d.directiveDefinitions
    |>.addTypes (s.requestedTypes d.requestedNames)

/-- What is rendered of a document, given the external types. -/
def rendition (external : List TypeDefinition) (d : Document) :
    Except ResolutionError Rendition :=
  if d.hasTypeSystem then do
    match ← Schema.ofDocument external d.normal with
    | some s => return d.normal.renditionOf s
    | none => return {}
  else return {}

/-- The canonical schema text of a document, given the external types. -/
def canonicalSdl (external : List TypeDefinition) (c : RenderSettings) (d : Document) :
    Except ResolutionError String := do
  return (← d.rendition external).text c

end Document

/-- The text that tells why a document has no canonical schema text. -/
def ResolutionError.report (e : ResolutionError) : String :=
  "document could not be resolved into a schema: " ++ e.message

end CanonicalSdl

import CanonicalSdl.Schema.Requested

/-!
# Renditions

What is rendered of a schema: the names of its query and mutation roots, the directives on it,
directive definitions and types. A subscription root is never rendered. The types have distinct
names and are in canonical order, however they were added.
-/

namespace CanonicalSdl

/-- What is rendered of a schema. -/
structure Rendition where
  query : Option String := none
  mutation : Option String := none
  directives : List Directive := []
  directiveDefinitions : List DirectiveDefinition := []
  types : List TypeDefinition := []

/-- Types with the given ones added one by one, except those whose name is taken already. -/
def addNew (types : List TypeDefinition) : List TypeDefinition → List TypeDefinition
  | [] => types
  | t :: added =>
    if types.any (·.name == t.name) then addNew types added else addNew (types ++ [t]) added

namespace Rendition

/-- Adds types. A type whose name is taken already is left out. -/
def addTypes (r : Rendition) (added : List TypeDefinition) : Rendition :=
  { r with types := sortTypes (addNew r.types added) }

/-- Adds directives on the schema. -/
def addDirectives (r : Rendition) (added : List Directive) : Rendition :=
  { r with directives := r.directives ++ added }

/-- Adds directive definitions. -/
def addDirectiveDefinitions (r : Rendition) (added : List DirectiveDefinition) : Rendition :=
  { r with directiveDefinitions := r.directiveDefinitions ++ added }

/-- The query and mutation roots of a schema with all types that can be reached from them. -/
def ofSchema (s : Schema) : Rendition :=
  addTypes { query := some s.query.name, mutation := s.mutation.map (·.name) } s.rootedTypes

/-- Whether there is nothing to render. -/
def isEmpty (r : Rendition) : Bool :=
  r.query.isNone && r.mutation.isNone && r.directives.isEmpty && r.directiveDefinitions.isEmpty &&
    r.types.isEmpty

end Rendition

end CanonicalSdl

import CanonicalSdl.Rendition.Text
import Mathlib.Data.List.Basic

/-!
# Renditions as documents

A rendition holds definitions, and thus the contents of a document: of all that is in it, or of
what its text shows.
-/

namespace CanonicalSdl.Rendition

/-- The schema definition of a rendition: its directives and its roots. -/
def schema (r : Rendition) : SchemaDefinition where
  directives := r.directives
  query := r.query
  mutation := r.mutation

/-- The document that declares what is in a rendition and nothing else. -/
def asDocument (r : Rendition) : Document where
  definitions :=
    r.directiveDefinitions.map .directive ++ [.schema r.schema] ++ r.types.map .type

/-- Whether the rendition has a query or a mutation root. -/
def hasRoot (r : Rendition) : Bool :=
  r.query.isSome || r.mutation.isSome

/-- The types of the rendition without the built-in scalar types. -/
def shownTypes (r : Rendition) : List TypeDefinition :=
  r.types.filter (!Rendering.isBuiltinScalar ·)

/-- The document of what the text of a rendition shows: directive definitions, the schema definition
if there is a root, and types. -/
def document (r : Rendition) : Document where
  definitions :=
    r.directiveDefinitions.map .directive ++
      (if r.hasRoot then [.schema r.schema] else []) ++ r.shownTypes.map .type

variable (r : Rendition)

lemma types_asDocument : r.asDocument.types = r.types := by
  have hnone :
      (r.directiveDefinitions.map Definition.directive).filterMap Definition.type? = [] := by
    simp [Definition.type?]
  have htypes : (r.types.map Definition.type).filterMap Definition.type? = r.types := by
    rw [List.filterMap_map]
    exact List.filterMap_some
  rw [asDocument, Document.types, List.filterMap_append, List.filterMap_append, hnone, htypes]
  rfl

lemma directiveDefinitions_asDocument :
    r.asDocument.directiveDefinitions = r.directiveDefinitions := by
  have hnone : (r.types.map Definition.type).filterMap Definition.directive? = [] := by
    simp [Definition.directive?]
  have hdirectives : (r.directiveDefinitions.map Definition.directive).filterMap
      Definition.directive? = r.directiveDefinitions := by
    rw [List.filterMap_map]
    exact List.filterMap_some
  rw [asDocument, Document.directiveDefinitions, List.filterMap_append, List.filterMap_append,
    hnone, hdirectives, List.append_nil]
  exact List.append_nil _

lemma schema?_asDocument : r.asDocument.schema? = some r.schema := by
  have hnone : (r.directiveDefinitions.map Definition.directive).findSome? Definition.schema? =
      none := by
    simp [Definition.schema?]
  rw [asDocument, Document.schema?, List.append_assoc, List.findSome?_append, hnone]
  rfl

lemma hasTypeSystem_asDocument : r.asDocument.hasTypeSystem = true := by
  simp [asDocument, Document.hasTypeSystem, Definition.isTypeSystem]

end CanonicalSdl.Rendition

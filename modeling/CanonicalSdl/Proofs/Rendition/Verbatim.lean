import CanonicalSdl.Proofs.Document.NormalForm
import CanonicalSdl.Proofs.Rendition.Types

/-!
# Definitions that are kept as text

Operations, fragments and extensions are never looked into. Wherever they stand in a document, and
however many of them there are, nothing of them shows in its canonical text, nor in the error if it
has none.
-/

namespace CanonicalSdl

namespace Document

variable {external : List TypeDefinition} {c : RenderSettings} {d d' : Document}

/-- The document without the definitions that are kept as text. -/
def typeSystem (d : Document) : Document where
  definitions := d.definitions.filter Definition.isTypeSystem

/-! ### What is left -/

lemma filterMap_typeSystem {α : Type} {kind : Definition → Option α} (d : Document)
    (hkind : ∀ definition, (kind definition).isSome = true → definition.isTypeSystem = true) :
    d.typeSystem.definitions.filterMap kind = d.definitions.filterMap kind := by
  rw [typeSystem, List.filterMap_filter]
  congr 1
  funext definition
  split
  · rfl
  next htext =>
    rw [eq_comm, ← Option.not_isSome_iff_eq_none]
    exact fun h => htext (hkind definition h)

@[simp] lemma types_typeSystem (d : Document) : d.typeSystem.types = d.types := by
  apply d.filterMap_typeSystem
  intro definition
  cases definition <;> simp [Definition.type?, Definition.isTypeSystem]

@[simp] lemma directiveDefinitions_typeSystem (d : Document) :
    d.typeSystem.directiveDefinitions = d.directiveDefinitions := by
  apply d.filterMap_typeSystem
  intro definition
  cases definition <;> simp [Definition.directive?, Definition.isTypeSystem]

@[simp] lemma schema?_typeSystem (d : Document) : d.typeSystem.schema? = d.schema? := by
  rw [schema?_eq_head?, schema?_eq_head?, d.filterMap_typeSystem]
  intro definition
  cases definition <;> simp [Definition.schema?, Definition.isTypeSystem]

@[simp] lemma hasTypeSystem_typeSystem (d : Document) :
    d.typeSystem.hasTypeSystem = d.hasTypeSystem := by
  simp [hasTypeSystem, typeSystem]

/-- The normal form treats what is kept as text apart from the rest. Definitions of both kinds can
have the empty key, but neither gets into the way of the other. -/
lemma normal_typeSystem (d : Document) : d.typeSystem.normal = d.normal.typeSystem := by
  rw [normal_eq, typeSystem, typeSystem, d.filter_normal]
  intro definition
  cases definition <;> rfl

lemma agrees_typeSystem (d : Document) : d.Agrees d.typeSystem where
  types := d.types_typeSystem
  schema? := d.schema?_typeSystem

lemma renditionOf_typeSystem (d : Document) (s : Schema) :
    d.typeSystem.renditionOf s = d.renditionOf s := by
  rw [d.agrees_typeSystem.renditionOf_eq, directiveDefinitions_typeSystem, renditionOf_eq]

/-! ### What is rendered -/

/-- The same is rendered of a document with and without the definitions that are kept as text. -/
lemma rendition_typeSystem (external : List TypeDefinition) (d : Document) :
    d.typeSystem.rendition external = d.rendition external := by
  rw [rendition, rendition, hasTypeSystem_typeSystem, normal_typeSystem,
    d.normal.agrees_typeSystem.ofDocument_eq]
  simp only [renditionOf_typeSystem]

/-- Documents that are the same without the definitions that are kept as text have the same
canonical text, or the same error; their normal forms ask for the same types, and they have the same
schema. -/
theorem canonicalSdl_eq_of_typeSystem_eq (h : d.typeSystem = d'.typeSystem)
    (external : List TypeDefinition) (c : RenderSettings) :
    d.canonicalSdl external c = d'.canonicalSdl external c ∧
      d.normal.requestedNames = d'.normal.requestedNames ∧
      Schema.ofDocument external d.normal = Schema.ofDocument external d'.normal := by
  have hnormal : d.normal.typeSystem = d'.normal.typeSystem := by
    rw [← normal_typeSystem, ← normal_typeSystem, h]
  refine ⟨?_, ?_, ?_⟩
  · rw [canonicalSdl, canonicalSdl, ← rendition_typeSystem, h, rendition_typeSystem]
  · rw [← d.normal.agrees_typeSystem.requestedNames_eq, hnormal,
      d'.normal.agrees_typeSystem.requestedNames_eq]
  · rw [← d.normal.agrees_typeSystem.ofDocument_eq, hnormal,
      d'.normal.agrees_typeSystem.ofDocument_eq]

/-- An enum type without a name, whose key is empty, and a query root. -/
def nameless : Document where
  definitions := [.type { name := "", body := .enum [] }, .type .soleQuery]

/-- The same types among definitions that are kept as text, which have the empty key as well. -/
def namelessAmongText : Document where
  definitions := [
    .executable ⟨some "Me", "query Me \x7b\n  me\n\x7d"⟩,
    .type { name := "", body := .enum [] },
    .extension ⟨some "Query", "extend type Query \x7b\n  b: Int\n\x7d"⟩,
    .type .soleQuery,
    .executable ⟨none, "\x7b\n  a\n\x7d"⟩]

theorem canonicalSdl_eq_of_typeSystem_eq_nameless :
    namelessAmongText.typeSystem = nameless.typeSystem ∧
      namelessAmongText.canonicalSdl [] {} = nameless.canonicalSdl [] {} ∧
      namelessAmongText.normal.requestedNames = nameless.normal.requestedNames ∧
      Schema.ofDocument [] namelessAmongText.normal = Schema.ofDocument [] nameless.normal := by
  have h : namelessAmongText.typeSystem = nameless.typeSystem := rfl
  exact ⟨h, canonicalSdl_eq_of_typeSystem_eq h [] {}⟩

end Document

end CanonicalSdl

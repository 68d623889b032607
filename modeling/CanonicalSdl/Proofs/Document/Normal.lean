import CanonicalSdl.Document.Normal
import CanonicalSdl.Proofs.Document.Sorting
import CanonicalSdl.Schema.Requested

/-!
# What normal forms keep

The normal form of a document has the same types up to the order of their fields and among each
other, and the same schema definitions and directive definitions in the same order.
-/

namespace CanonicalSdl

/-! ### Types -/

namespace TypeDefinition

variable (t : TypeDefinition)

@[simp] lemma normal_name : t.normal.name = t.name := by
  obtain ⟨description, name, directives, body⟩ := t
  cases body <;> rfl

@[simp] lemma normal_directives : t.normal.directives = t.directives := by
  obtain ⟨description, name, directives, body⟩ := t
  cases body <;> rfl

@[simp] lemma normal_isObject : t.normal.isObject = t.isObject := by
  obtain ⟨description, name, directives, body⟩ := t
  cases body <;> rfl

@[simp] lemma normal_requestedNames : t.normal.requestedNames = t.requestedNames := by
  simp only [requestedNames, directive?, normal_directives]

@[simp] lemma normal_normal : t.normal.normal = t.normal := by
  obtain ⟨description, name, directives, body⟩ := t
  cases body <;> simp [normal, sortByBytes_sortByBytes]

/-- What is among normal forms is its own normal form. -/
lemma normal_of_mem_map {t : TypeDefinition} {types : List TypeDefinition}
    (ht : t ∈ types.map normal) : t.normal = t := by
  obtain ⟨u, -, rfl⟩ := List.mem_map.1 ht
  exact u.normal_normal

end TypeDefinition

/-! ### Documents -/

namespace Document

variable (d : Document)

lemma normal_definitions_perm : d.normal.definitions.Perm (d.definitions.map Definition.normal) :=
  sortByBytes_perm _ _

lemma type?_normal (definition : Definition) :
    definition.normal.type? = definition.type?.map TypeDefinition.normal := by
  cases definition <;> rfl

/-- The types of the normal form are the normal forms of the types. -/
lemma normal_types_perm : d.normal.types.Perm (d.types.map TypeDefinition.normal) := by
  have hmap : (d.definitions.map Definition.normal).filterMap Definition.type? =
      d.types.map TypeDefinition.normal := by
    rw [types, List.filterMap_map, List.map_filterMap]
    congr 1
    funext definition
    exact type?_normal definition
  rw [← hmap]
  exact d.normal_definitions_perm.filterMap _

lemma normal_objects_perm : d.normal.objects.Perm (d.objects.map TypeDefinition.normal) := by
  have hfilter : (d.types.map TypeDefinition.normal).filter TypeDefinition.isObject =
      d.objects.map TypeDefinition.normal := by
    rw [List.filter_map, objects]
    congr 2
    funext t
    exact t.normal_isObject
  rw [← hfilter]
  exact d.normal_types_perm.filter _

lemma normal_requestedNames_perm : d.normal.requestedNames.Perm d.requestedNames := by
  have hperm := d.normal_objects_perm.flatMap_right TypeDefinition.requestedNames
  rwa [List.flatMap_map, show (fun t => TypeDefinition.requestedNames (TypeDefinition.normal t)) =
    TypeDefinition.requestedNames by funext t; exact t.normal_requestedNames] at hperm

/-- Definitions of a kind whose key does not tell them apart keep their order. -/
lemma normal_filterMap {α : Type} {kind : Definition → Option α} (key : OrderKey)
    (hnormal : ∀ definition : Definition, kind definition.normal = kind definition)
    (hkey : ∀ definition, (kind definition).isSome = true → definition.orderKey = key) :
    d.normal.definitions.filterMap kind = d.definitions.filterMap kind := by
  rw [normal, filterMap_sortByBytes, List.filterMap_map]
  · congr 1
    funext definition
    exact hnormal definition
  · intro a _ b _ ha hb
    rw [hkey a ha, hkey b hb]

@[simp] lemma normal_directiveDefinitions :
    d.normal.directiveDefinitions = d.directiveDefinitions := by
  apply d.normal_filterMap ⟨"a", ""⟩
  · intro definition
    cases definition <;> rfl
  · intro definition h
    cases definition with
    | directive definition => rfl
    | _ => simp [Definition.directive?] at h

lemma schema?_eq_head? : d.schema? = (d.definitions.filterMap Definition.schema?).head? := by
  rw [schema?, List.head?_filterMap]

lemma normal_schemas :
    d.normal.definitions.filterMap Definition.schema? =
      d.definitions.filterMap Definition.schema? := by
  apply d.normal_filterMap ⟨"b", ""⟩
  · intro definition
    cases definition <;> rfl
  · intro definition h
    cases definition with
    | schema definition => rfl
    | _ => simp [Definition.schema?] at h

@[simp] lemma normal_schema? : d.normal.schema? = d.schema? := by
  rw [schema?_eq_head?, schema?_eq_head?, normal_schemas]

end Document

end CanonicalSdl

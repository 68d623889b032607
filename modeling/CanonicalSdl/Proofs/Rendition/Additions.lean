import CanonicalSdl.Proofs.Document.NormalForm
import CanonicalSdl.Proofs.Rendition.Outcome

/-!
# Adding to a rendition

A rendition that has been made from nothing or from a schema can be added to, any number of times.
However the types among the additions are divided up, the rendition holds the first type of each
name in canonical order. Types with one key are in the order in which they were added.
-/

namespace CanonicalSdl

open Schema (IsFirst find?_eq_some_iff_isFirst)

variable {types added batch : List TypeDefinition} {t : TypeDefinition} {r : Rendition}

/-! ### The first types -/

lemma find?_firstsByName (types : List TypeDefinition) (name : String) :
    (firstsByName types).find? (·.name == name) = types.find? (·.name == name) := by
  induction types with
  | nil => rfl
  | cons t types ih =>
    rw [firstsByName, List.find?_cons, List.find?_cons, ← ih, List.find?_filter]
    by_cases h : t.name = name
    · simp [h]
    · simp only [beq_eq_false_iff_ne.2 h]
      congr 1
      funext u
      grind

lemma any_name_firstsByName (types : List TypeDefinition) (name : String) :
    (firstsByName types).any (·.name == name) = types.any (·.name == name) := by
  rw [Bool.eq_iff_iff, List.any_eq_true, List.any_eq_true, ← List.find?_isSome,
    ← List.find?_isSome, find?_firstsByName]

lemma nodup_firstsByName (types : List TypeDefinition) :
    ((firstsByName types).map (·.name)).Nodup := by
  induction types with
  | nil => exact List.nodup_nil
  | cons t types ih =>
    rw [firstsByName, List.map_cons, List.nodup_cons]
    constructor
    · simp
    · exact ih.sublist (List.filter_sublist.map _)

lemma mem_firstsByName : t ∈ firstsByName types ↔ IsFirst types t.name t := by
  rw [← find?_eq_some_iff_isFirst, ← find?_firstsByName,
    Schema.find?_eq_some_iff_of_nodup (nodup_firstsByName types)]
  simp

/-- Of further types those count that are the first with their names, unless a name is taken. -/
lemma firstsByName_append (types added : List TypeDefinition) :
    firstsByName (types ++ added) =
      firstsByName types ++
        (firstsByName added).filter fun t => !types.any (·.name == t.name) := by
  induction types with
  | nil => simp [firstsByName]
  | cons t types ih =>
    rw [List.cons_append, firstsByName, ih, List.filter_append, List.filter_filter, firstsByName,
      List.cons_append]
    congr 3
    funext u
    grind

lemma firstsByName_append_of_taken
    (h : ∀ t ∈ added, t.name ∈ types.map (·.name)) :
    firstsByName (types ++ added) = firstsByName types := by
  have hnone : (firstsByName added).filter (fun t => !types.any (·.name == t.name)) = [] := by
    rw [List.filter_eq_nil_iff]
    intro t ht
    obtain ⟨-, before, after, rfl, -⟩ := mem_firstsByName.1 ht
    simpa using h t (by simp)
  rw [firstsByName_append, hnone, List.append_nil]

/-! ### Adding types once -/

lemma isStableSort_sortTypes (types : List TypeDefinition) :
    IsStableSort TypeDefinition.keyText types (sortTypes types) := by
  have hkey (t : TypeDefinition) : t.orderKey.bytes = Text.utf8 t.keyText :=
    Definition.bytes_orderKey (.type t)
  simp only [sortTypes, hkey]
  exact isStableSort_sortByBytes _ types

/-- What has been sorted before may be sorted again together with what follows it. -/
lemma sortTypes_sortTypes_append (types added : List TypeDefinition) :
    sortTypes (sortTypes types ++ added) = sortTypes (types ++ added) :=
  ((isStableSort_sortTypes types).append (isStableSort_sortTypes _)).unique
    (isStableSort_sortTypes _)

/-- A rendition with the first types of given ones has the first types of all, after it has been
added to. -/
lemma types_addTypes (h : r.types = sortTypes (firstsByName added)) (batch : List TypeDefinition) :
    (r.addTypes batch).types = sortTypes (firstsByName (added ++ batch)) := by
  have htaken (name : String) : r.types.any (·.name == name) = added.any (·.name == name) := by
    rw [h, sortTypes, (sortByBytes_perm _ _).any_eq, any_name_firstsByName]
  rw [Rendition.addTypes, addNew_eq_append, firstsByName_append]
  simp only [htaken]
  rw [h, sortTypes_sortTypes_append]

namespace Rendition

lemma addTypes_addTypes (h : r.types = sortTypes (firstsByName added))
    (batch batch' : List TypeDefinition) :
    (r.addTypes batch).addTypes batch' = r.addTypes (batch ++ batch') := by
  have htypes :
      ((r.addTypes batch).addTypes batch').types = (r.addTypes (batch ++ batch')).types := by
    rw [types_addTypes (types_addTypes h batch), types_addTypes h, List.append_assoc]
  rw [addTypes, addTypes, addTypes] at *
  exact congrArg (fun types => { r with types }) htypes

/-- Types whose names are taken add nothing. -/
lemma addTypes_eq_self (h : r.types = sortTypes (firstsByName added))
    (htaken : ∀ t ∈ batch, t.name ∈ added.map (·.name)) : r.addTypes batch = r := by
  have htypes : (r.addTypes batch).types = r.types := by
    rw [types_addTypes h, firstsByName_append_of_taken htaken, h]
  rw [addTypes] at *
  exact congrArg (fun types => { r with types }) htypes

/-! ### Adding repeatedly -/

/-- What can be added to a rendition. -/
inductive Addition where
  | types (added : List TypeDefinition)
  | directives (added : List Directive)
  | directiveDefinitions (added : List DirectiveDefinition)

/-- The types among what is added. -/
def Addition.addedTypes : Addition → List TypeDefinition
  | .types added => added
  | .directives _ => []
  | .directiveDefinitions _ => []

/-- Adds to a rendition. -/
def add (r : Rendition) : Addition → Rendition
  | .types added => r.addTypes added
  | .directives added => r.addDirectives added
  | .directiveDefinitions added => r.addDirectiveDefinitions added

/-- Adds to a rendition, one addition after another. -/
def addAll (r : Rendition) (additions : List Addition) : Rendition :=
  additions.foldl add r

/-- Nothing has been added to the rendition since it was made, from nothing or from a schema. -/
inductive IsInitial : Rendition → Prop where
  | empty : IsInitial {}
  | ofSchema (s : Schema) : IsInitial (ofSchema s)

/-- The rendition holds the first types of given ones, however these were added. -/
structure HoldsFirsts (added : List TypeDefinition) (r : Rendition) : Prop where
  /-- The types are the given ones without later types of a name, in a stable sort. -/
  types_eq : r.types = (firstsByName added).mergeSort fun t u => (t.compare u).isLE
  /-- No name occurs twice. -/
  nodup : (r.types.map (·.name)).Nodup
  /-- No name is lost. -/
  mem_names : ∀ t ∈ added, t.name ∈ r.types.map (·.name)
  /-- Of types with one name it is the first one that was added. -/
  mem_iff : ∀ t, t ∈ r.types ↔ IsFirst added t.name t
  /-- Two batches can be added as one. -/
  addTypes_addTypes : ∀ batch batch',
    (r.addTypes batch).addTypes batch' = r.addTypes (batch ++ batch')
  /-- Types whose names are taken add nothing. -/
  addTypes_eq_self : ∀ batch, (∀ t ∈ batch, t.name ∈ r.types.map (·.name)) → r.addTypes batch = r

lemma mem_names_iff (h : r.types = sortTypes (firstsByName added)) {name : String} :
    name ∈ r.types.map (·.name) ↔ name ∈ added.map (·.name) := by
  have hany : (firstsByName added).any (·.name == name) = true ↔
      added.any (·.name == name) = true := by
    rw [any_name_firstsByName]
  rw [h, sortTypes, ((sortByBytes_perm _ _).map _).mem_iff]
  simpa using hany

lemma holdsFirsts_of_types_eq (h : r.types = sortTypes (firstsByName added)) :
    r.HoldsFirsts added where
  types_eq := h
  nodup := by
    rw [h]
    exact ((sortByBytes_perm _ _).map _).nodup_iff.2 (nodup_firstsByName added)
  mem_names t ht := (mem_names_iff h).2 (List.mem_map_of_mem ht)
  mem_iff t := by
    rw [h, sortTypes, mem_sortByBytes, mem_firstsByName]
  addTypes_addTypes := Rendition.addTypes_addTypes h
  addTypes_eq_self batch htaken :=
    Rendition.addTypes_eq_self h fun t ht => (mem_names_iff h).1 (htaken t ht)

lemma IsInitial.types_eq (h : r.IsInitial) : r.types = sortTypes (firstsByName r.types) := by
  cases h with
  | empty => exact (List.mergeSort_nil).symm
  | ofSchema s =>
    rw [types_ofSchema, firstsByName_of_nodup (nodup_rootedTypes s)]
    exact (sortTypes_closure _ _).symm

/-- Each addition keeps that the types are the first ones of those added so far. -/
lemma types_add (h : r.types = sortTypes (firstsByName added)) (addition : Addition) :
    (r.add addition).types = sortTypes (firstsByName (added ++ addition.addedTypes)) := by
  cases addition with
  | types batch => exact types_addTypes h batch
  | directives ds =>
    rw [Addition.addedTypes, List.append_nil]
    exact h
  | directiveDefinitions ds =>
    rw [Addition.addedTypes, List.append_nil]
    exact h

lemma types_addAll (h : r.types = sortTypes (firstsByName added)) (additions : List Addition) :
    (r.addAll additions).types =
      sortTypes (firstsByName (added ++ additions.flatMap Addition.addedTypes)) := by
  induction additions generalizing r added with
  | nil =>
    rw [List.flatMap_nil, List.append_nil]
    exact h
  | cons addition additions ih =>
    rw [List.flatMap_cons, ← List.append_assoc]
    exact ih (types_add h addition)

/-- A rendition that has been added to holds the first types of those it had and those that were
added. -/
theorem holdsFirsts_addAll (h : r.IsInitial) (additions : List Addition) :
    (r.addAll additions).HoldsFirsts (r.types ++ additions.flatMap Addition.addedTypes) :=
  holdsFirsts_of_types_eq (types_addAll h.types_eq additions)

/-- Types with one key in two batches, and a second type with the name of the query root. -/
def collidingAdditions : List Addition :=
  [.types [⟨none, "czz", [], .interface [] []⟩], .directives [⟨"link", []⟩],
    .types [⟨none, "zz", [], .scalar⟩, ⟨none, "Query", [], .scalar⟩]]

theorem holdsFirsts_addAll_colliding :
    (ofSchema .soleQuery).IsInitial ∧
      ((ofSchema .soleQuery).addAll collidingAdditions).HoldsFirsts
        [.soleQuery, ⟨none, "czz", [], .interface [] []⟩, ⟨none, "zz", [], .scalar⟩,
          ⟨none, "Query", [], .scalar⟩] := by
  have htypes : (ofSchema .soleQuery).types = [.soleQuery] := by
    rw [types_ofSchema]
    exact Schema.closure_singleton (t := .soleQuery) (by decide) (by decide) (by decide)
  have hfirsts := holdsFirsts_addAll (.ofSchema .soleQuery) collidingAdditions
  rw [htypes] at hfirsts
  exact ⟨.ofSchema _, hfirsts⟩

end Rendition

end CanonicalSdl

import CanonicalSdl.Proofs.Document.NormalForm
import CanonicalSdl.Proofs.Rendition.Types
import CanonicalSdl.Proofs.Schema.NormalForm

/-!
# What comes of a document

A document has a canonical text, which may be empty, or an error. If it has a type system, which of
them it is depends on the query root and the mutation root: on the names that are declared for them,
and on the first types that have these names. A text that is not empty shows the two roots in its
schema definition. No subscription root plays a part.
-/

namespace CanonicalSdl

namespace Schema

/-! ### Roots and faults -/

/-- The type is the first one that has the name. -/
def IsFirst (types : List TypeDefinition) (name : String) (t : TypeDefinition) : Prop :=
  t.name = name ∧ ∃ before after, types = before ++ t :: after ∧ ∀ u ∈ before, u.name ≠ name

/-- The type is the root of an operation: the first type that has the declared name, or the
conventional one if none is declared, and an object type. -/
def IsRootOf (types : List TypeDefinition) (operation : RootOperation) (declared : Option String)
    (t : TypeDefinition) : Prop :=
  IsFirst types (declared.getD operation.conventionalName) t ∧ t.isObject = true

/-- The error tells why the declared root of an operation cannot be resolved: no type has the name,
or the first one that has it is no object type. -/
inductive RootFault (types : List TypeDefinition) (operation : RootOperation)
    (declared : Option String) : ResolutionError → Prop where
  | undefined {name} (declares : declared = some name) (missing : ∀ t ∈ types, t.name ≠ name) :
      RootFault types operation declared (.undefinedRoot operation name)
  | notAnObject {name t} (declares : declared = some name) (first : IsFirst types name t)
      (kind : t.isObject = false) : RootFault types operation declared (.notAnObject operation name)

variable {external types : List TypeDefinition} {d : Document} {s : Schema} {t : TypeDefinition}
  {name : String} {operation : RootOperation} {declared : Option String} {e : ResolutionError}

lemma find?_eq_some_iff_isFirst :
    types.find? (·.name == name) = some t ↔ IsFirst types name t := by
  simp [List.find?_eq_some_iff_append, IsFirst]

lemma rootType_eq_ok_some_iff_isRootOf :
    rootType types operation declared = .ok (some t) ↔ IsRootOf types operation declared t := by
  rw [rootType_eq_ok_some_iff, find?_eq_some_iff_isFirst, IsRootOf]

lemma rootType_eq_error_iff :
    rootType types operation declared = .error e ↔ RootFault types operation declared e := by
  cases declared with
  | none =>
    -- a root that is not declared can always be resolved, if only to none
    obtain ⟨root, hroot⟩ := exists_rootType_undeclared types operation
    rw [hroot]
    exact iff_of_false (fun h => nomatch h) fun h => by cases h <;> contradiction
  | some name =>
    rw [rootType]
    constructor
    · intro h
      split at h
      next t hfirst =>
        split at h
        · contradiction
        next hkind =>
          obtain rfl := Except.error.inj h
          exact .notAnObject rfl (find?_eq_some_iff_isFirst.1 hfirst) (by simpa using hkind)
      next hmissing =>
        obtain rfl := Except.error.inj h
        exact .undefined rfl (by simpa using hmissing)
    · rintro (⟨⟨⟩, hmissing⟩ | ⟨⟨⟩, hfirst, hkind⟩)
      · rw [List.find?_eq_none.2 (by simpa using hmissing)]
      · rw [find?_eq_some_iff_isFirst.2 hfirst]
        simp [hkind]

/-- Unless there is a fault, an operation can be resolved. -/
lemma exists_rootType_iff :
    (∃ root, rootType types operation declared = .ok root) ↔
      ∀ e, ¬ RootFault types operation declared e := by
  simp only [← rootType_eq_error_iff]
  cases rootType types operation declared <;> simp

/-- The first fault is reported. -/
lemma ofDocument_eq_error_iff :
    ofDocument external d = .error e ↔
      RootFault (pool external d) .query (declaredRoot d .query) e ∨
      (∀ e', ¬ RootFault (pool external d) .query (declaredRoot d .query) e') ∧
        RootFault (pool external d) .mutation (declaredRoot d .mutation) e := by
  rw [← exists_rootType_iff, ← rootType_eq_error_iff, ← rootType_eq_error_iff, ofDocument]
  simp only [declaredRoot]
  cases rootType (pool external d) .query (d.schema?.bind (·.root? .query)) with
  | error e => simp [bind, Except.bind]
  | ok query =>
    cases rootType (pool external d) .mutation (d.schema?.bind (·.root? .mutation)) with
    | error e => simp [bind, Except.bind]
    | ok mutation => simp [bind, Except.bind, pure, Except.pure]

/-- A document has no schema if no query root is declared, no object type is the first one of the
conventional name, and the mutation root has no fault. -/
lemma ofDocument_eq_ok_none_iff_isFirst :
    ofDocument external d = .ok none ↔
      (declaredRoot d .query = none ∧
        ∀ t, IsFirst (pool external d) "Query" t → t.isObject = false) ∧
      ∀ e, ¬ RootFault (pool external d) .mutation (declaredRoot d .mutation) e := by
  simp only [ofDocument_eq_ok_none_iff, rootType_eq_ok_none_iff, find?_eq_some_iff_isFirst,
    exists_rootType_iff]
  rfl

end Schema

open Schema (IsFirst IsRootOf RootFault declaredRoot)

variable {external : List TypeDefinition} {c : RenderSettings} {d : Document} {s : Schema}
  {e : ResolutionError} {text : String}

/-! ### The text of a rendition -/

/-- The lines in which a schema definition shows its roots. -/
def rootLines (c : RenderSettings) (query : String) (mutation : Option String) : List String :=
  (c.spaces ++ "query: " ++ query ++ "\n") ::
    (mutation.map fun name => c.spaces ++ "mutation: " ++ name ++ "\n").toList

/-- The text of a schema definition. -/
def schemaText (c : RenderSettings) (directives : List Directive) (query : String)
    (mutation : Option String) : String :=
  "schema" ++ directivesText .standard directives ++ " \x7b\n" ++
    String.join (rootLines c query mutation) ++ "\x7d\n"

lemma schemaBlock_eq_schemaText {r : Rendition} {query : String} (hquery : r.query = some query) :
    Rendering.schemaBlock c r = schemaText c r.directives query r.mutation := by
  rw [Rendering.schemaBlock, hquery]
  cases r.mutation <;> simp [schemaText, rootLines, Rendering.directives, Rendering.braced,
    Rendering.root, RootOperation.word, String.append_assoc]

lemma text_renditionOf (d : Document) (s : Schema) (c : RenderSettings) :
    (d.renditionOf s).text c = "\n".intercalate (
      d.directiveDefinitions.map (Rendering.directiveBlock c) ++
        [schemaText c ((d.schema?.map (·.directives)).getD []) s.query.name
          (s.mutation.map (·.name))] ++
        ((d.renditionOf s).types.filter (!Rendering.isBuiltinScalar ·)).map
          (Rendering.typeBlock c)) := by
  have hquery : (d.renditionOf s).query = some s.query.name := by rw [renditionOf_eq]
  have hshows : Rendering.showsSchema (d.renditionOf s) = true := by
    simp [Rendering.showsSchema, hquery]
  rw [Rendition.text, Rendering.blocks, if_pos hshows, schemaBlock_eq_schemaText hquery]
  rfl

lemma intercalate_ne_empty {separator block : String} {blocks : List String}
    (hmem : block ∈ blocks) (hne : block ≠ "") : separator.intercalate blocks ≠ "" := by
  induction blocks with
  | nil => contradiction
  | cons first rest ih =>
    cases rest with
    | nil =>
      rw [String.intercalate_singleton, ← List.mem_singleton.1 hmem]
      exact hne
    | cons second rest =>
      rw [String.intercalate_cons_cons]
      rcases List.mem_cons.1 hmem with rfl | hmem
      · simp [hne]
      · simp [ih hmem]

lemma text_renditionOf_ne_empty (d : Document) (s : Schema) (c : RenderSettings) :
    (d.renditionOf s).text c ≠ "" := by
  rw [text_renditionOf]
  refine intercalate_ne_empty (List.mem_append_left _ (List.mem_append_right _
    (List.mem_singleton_self _))) ?_
  simp [schemaText]

/-! ### Outcomes -/

/-- A definition with another subscription root, if it is a schema definition. -/
def Definition.withSubscription (f : SchemaDefinition → Option String) : Definition → Definition
  | .schema s => .schema { s with subscription := f s }
  | definition => definition

namespace Document

/-- The types that are known where a document is resolved: those of its normal form, and then the
external types whose names it does not define, with sorted fields. -/
def knownTypes (external : List TypeDefinition) (d : Document) : List TypeDefinition :=
  d.normal.types ++ (external.filter (·.name ∉ d.types.map (·.name))).map TypeDefinition.normal

/-- The type is the root of an operation of the document. -/
def HasRoot (external : List TypeDefinition) (d : Document) (operation : RootOperation)
    (t : TypeDefinition) : Prop :=
  IsRootOf (d.knownTypes external) operation (declaredRoot d.normal operation) t

/-- The root that the document declares for an operation cannot be resolved, for the given
reason. -/
def HasFault (external : List TypeDefinition) (d : Document) (operation : RootOperation)
    (e : ResolutionError) : Prop :=
  RootFault (d.knownTypes external) operation (declaredRoot d.normal operation) e

/-- The document declares no query root, and no type has the conventional name, or the first one
that has it is no object type. -/
def LacksQuery (external : List TypeDefinition) (d : Document) : Prop :=
  declaredRoot d.normal .query = none ∧
    ∀ t, IsFirst (d.knownTypes external) "Query" t → t.isObject = false

/-- Between directive definitions and types the text has a schema definition, which shows just the
query root and, if there is one, the mutation root. -/
def ShowsRoots (external : List TypeDefinition) (c : RenderSettings) (d : Document)
    (text : String) : Prop :=
  ∃ query mutation, ∃ types : List TypeDefinition, d.HasRoot external .query query ∧
    (∀ t, mutation = some t ↔ d.HasRoot external .mutation t) ∧
    text = "\n".intercalate (
      d.directiveDefinitions.map (Rendering.directiveBlock c) ++
        [schemaText c ((d.schema?.map (·.directives)).getD []) query.name
          (mutation.map TypeDefinition.name)] ++
        types.map (Rendering.typeBlock c))

/-- The document with other subscription roots in its schema definitions. -/
def withSubscriptions (f : SchemaDefinition → Option String) (d : Document) : Document where
  definitions := d.definitions.map (Definition.withSubscription f)

/-- What comes of a document, depending on its query root and its mutation root. -/
structure HasOutcome (external : List TypeDefinition) (c : RenderSettings) (d : Document)
    (result : Except ResolutionError String) : Prop where
  /-- A fault of the query root is reported, or else one of the mutation root. -/
  error_iff : ∀ e, result = .error e ↔ d.hasTypeSystem = true ∧
    (d.HasFault external .query e ∨
      (∀ e', ¬ d.HasFault external .query e') ∧ d.HasFault external .mutation e)
  /-- Without a type system, or without faults and without a query root, the text is empty. -/
  empty_iff : result = .ok "" ↔ d.hasTypeSystem = false ∨
    d.LacksQuery external ∧ ∀ e, ¬ d.HasFault external .mutation e
  /-- In all other cases there is a text, which shows the roots. -/
  showsRoots : d.hasTypeSystem = true → ¬ d.LacksQuery external →
    (∀ e, ¬ d.HasFault external .query e) → (∀ e, ¬ d.HasFault external .mutation e) →
    ∃ text, result = .ok text ∧ text ≠ "" ∧ d.ShowsRoots external c text
  /-- No subscription root plays a part. -/
  subscriptions : ∀ f, (d.withSubscriptions f).canonicalSdl external c = result

/-! ### Subscription roots -/

section

variable (f : SchemaDefinition → Option String) (d : Document)

lemma normal_withSubscriptions : (d.withSubscriptions f).normal = d.normal.withSubscriptions f := by
  have hnormal (definition : Definition) :
      (definition.withSubscription f).normal = definition.normal.withSubscription f := by
    cases definition <;> rfl
  have hkey (definition : Definition) :
      (definition.withSubscription f).orderKey = definition.orderKey := by
    cases definition <;> rfl
  simp only [normal, withSubscriptions, List.map_map, Function.comp_def, hnormal]
  rw [map_sortByBytes fun definition _ => by rw [hkey], List.map_map]
  rfl

/-- What does not look at subscription roots finds the same definitions. -/
lemma filterMap_withSubscriptions {α : Type} {kind : Definition → Option α}
    (hkind : ∀ definition : Definition, kind (definition.withSubscription f) = kind definition) :
    (d.withSubscriptions f).definitions.filterMap kind = d.definitions.filterMap kind := by
  rw [withSubscriptions, List.filterMap_map]
  simp only [Function.comp_def, hkind]

lemma types_withSubscriptions : (d.withSubscriptions f).types = d.types := by
  apply filterMap_withSubscriptions
  intro definition
  cases definition <;> rfl

lemma directiveDefinitions_withSubscriptions :
    (d.withSubscriptions f).directiveDefinitions = d.directiveDefinitions := by
  apply filterMap_withSubscriptions
  intro definition
  cases definition <;> rfl

lemma requestedNames_withSubscriptions :
    (d.withSubscriptions f).requestedNames = d.requestedNames := by
  rw [requestedNames, requestedNames, objects, objects, types_withSubscriptions]

lemma hasTypeSystem_withSubscriptions :
    (d.withSubscriptions f).hasTypeSystem = d.hasTypeSystem := by
  rw [hasTypeSystem, hasTypeSystem, withSubscriptions, List.any_map]
  congr 1
  funext definition
  cases definition <;> rfl

lemma schema?_withSubscriptions : (d.withSubscriptions f).schema? =
    d.schema?.map fun s => { s with subscription := f s } := by
  rw [schema?_eq_head?, schema?_eq_head?, ← List.head?_map, List.map_filterMap, withSubscriptions,
    List.filterMap_map]
  congr 2
  funext definition
  cases definition <;> rfl

/-- The schema has other subscription roots at most. -/
lemma ofDocument_withSubscriptions (external : List TypeDefinition) :
    ∃ subscription, Schema.ofDocument external (d.withSubscriptions f) =
      (Schema.ofDocument external d).map (Option.map fun s => { s with subscription }) := by
  refine ⟨(Schema.rootType (Schema.pool external d) .subscription
    ((d.withSubscriptions f).schema?.bind (·.root? .subscription))).toOption.join, ?_⟩
  have hpool : Schema.pool external (d.withSubscriptions f) = Schema.pool external d := by
    rw [Schema.pool, types_withSubscriptions, Schema.pool]
  have hquery : (d.withSubscriptions f).schema?.bind (·.root? .query) =
      d.schema?.bind (·.root? .query) := by
    rw [schema?_withSubscriptions, Option.bind_map]
    rfl
  have hmutation : (d.withSubscriptions f).schema?.bind (·.root? .mutation) =
      d.schema?.bind (·.root? .mutation) := by
    rw [schema?_withSubscriptions, Option.bind_map]
    rfl
  -- the two resolutions go the same way up to the subscription root, which cannot fail
  simp only [Schema.ofDocument, hpool, hquery, hmutation]
  cases Schema.rootType (Schema.pool external d) .query (d.schema?.bind (·.root? .query)) with
  | error e => rfl
  | ok query =>
    cases Schema.rootType (Schema.pool external d) .mutation
        (d.schema?.bind (·.root? .mutation)) with
    | error e => rfl
    | ok mutation => cases query <;> rfl

lemma renditionOf_withSubscriptions (subscription : Option TypeDefinition) (s : Schema) :
    (d.withSubscriptions f).renditionOf { s with subscription } = d.renditionOf s := by
  have hdirectives : (d.withSubscriptions f).schema?.map (·.directives) =
      d.schema?.map (·.directives) := by
    rw [schema?_withSubscriptions, Option.map_map]
    rfl
  rw [renditionOf_eq, renditionOf_eq, hdirectives, directiveDefinitions_withSubscriptions,
    requestedNames_withSubscriptions]
  rfl

lemma rendition_withSubscriptions (external : List TypeDefinition) :
    (d.withSubscriptions f).rendition external = d.rendition external := by
  obtain ⟨subscription, hschema⟩ := ofDocument_withSubscriptions f d.normal external
  rw [rendition, rendition, hasTypeSystem_withSubscriptions, normal_withSubscriptions, hschema]
  split
  · cases Schema.ofDocument external d.normal with
    | error e => rfl
    | ok schema =>
      cases schema with
      | none => rfl
      | some s => exact congrArg Except.ok (renditionOf_withSubscriptions f _ subscription s)
  · rfl

end

/-! ### The outcome -/

lemma pool_normal_eq_knownTypes (external : List TypeDefinition) (d : Document) :
    Schema.pool external d.normal = d.knownTypes external := by
  rw [Schema.pool_normal, knownTypes, List.filter_map]
  congr 3
  funext t
  rw [Bool.eq_iff_iff]
  simp

/-- A document that cannot be resolved into a schema has a fault. -/
lemma ofDocument_normal_eq_error_iff : Schema.ofDocument external d.normal = .error e ↔
    d.HasFault external .query e ∨
      (∀ e', ¬ d.HasFault external .query e') ∧ d.HasFault external .mutation e := by
  rw [Schema.ofDocument_eq_error_iff, pool_normal_eq_knownTypes]
  rfl

/-- A document that has no schema lacks a query root, and its mutation root has no fault. -/
lemma ofDocument_normal_eq_ok_none_iff : Schema.ofDocument external d.normal = .ok none ↔
    d.LacksQuery external ∧ ∀ e, ¬ d.HasFault external .mutation e := by
  rw [Schema.ofDocument_eq_ok_none_iff_isFirst, pool_normal_eq_knownTypes]
  rfl

lemma hasRoot_iff {operation : RootOperation} {t : TypeDefinition} :
    d.HasRoot external operation t ↔
      Schema.rootType (Schema.pool external d.normal) operation
        (declaredRoot d.normal operation) = .ok (some t) := by
  rw [Schema.rootType_eq_ok_some_iff_isRootOf, pool_normal_eq_knownTypes, HasRoot]

lemma canonicalSdl_of_not_hasTypeSystem (hd : ¬ d.hasTypeSystem = true) :
    d.canonicalSdl external c = .ok "" := by
  rw [canonicalSdl, rendition, if_neg hd]
  rfl

/-- The text of a document that has a type system is that of its schema, if it has one. -/
lemma canonicalSdl_eq_map (hd : d.hasTypeSystem = true) : d.canonicalSdl external c =
    (Schema.ofDocument external d.normal).map fun schema =>
      schema.elim "" fun s => (d.normal.renditionOf s).text c := by
  rw [canonicalSdl, rendition, if_pos hd]
  cases Schema.ofDocument external d.normal with
  | error e => rfl
  | ok schema => cases schema <;> rfl

lemma canonicalSdl_eq_error_iff (hd : d.hasTypeSystem = true) :
    d.canonicalSdl external c = .error e ↔ Schema.ofDocument external d.normal = .error e := by
  rw [canonicalSdl_eq_map hd]
  cases Schema.ofDocument external d.normal <;> simp [Except.map]

lemma canonicalSdl_eq_empty_iff (hd : d.hasTypeSystem = true) :
    d.canonicalSdl external c = .ok "" ↔ Schema.ofDocument external d.normal = .ok none := by
  rw [canonicalSdl_eq_map hd]
  cases Schema.ofDocument external d.normal with
  | error e => simp [Except.map]
  | ok schema => cases schema <;> simp [Except.map, text_renditionOf_ne_empty]

/-- The text of a document that has a schema shows the roots of the schema. -/
lemma showsRoots_text (hs : Schema.ofDocument external d.normal = .ok (some s)) :
    d.ShowsRoots external c ((d.normal.renditionOf s).text c) := by
  obtain ⟨hquery, hmutation, -, -⟩ := Schema.ofDocument_eq_ok_some_iff.1 hs
  refine ⟨s.query, s.mutation,
    (d.normal.renditionOf s).types.filter (!Rendering.isBuiltinScalar ·),
    hasRoot_iff.2 hquery, fun t => ?_, ?_⟩
  · rw [hasRoot_iff, hmutation, Except.ok.injEq]
  · rw [text_renditionOf, normal_directiveDefinitions, normal_schema?]

/-- What comes of a document that has a type system is decided by the names that are declared for
its query root and its mutation root, and by the first types that have these names. -/
theorem hasOutcome_canonicalSdl (external : List TypeDefinition) (c : RenderSettings)
    (d : Document) :
    d.HasOutcome external c (d.canonicalSdl external c) where
  error_iff e := by
    by_cases hd : d.hasTypeSystem = true
    · rw [canonicalSdl_eq_error_iff hd, ofDocument_normal_eq_error_iff]
      simp only [hd, true_and]
    · simp [canonicalSdl_of_not_hasTypeSystem hd, hd]
  empty_iff := by
    by_cases hd : d.hasTypeSystem = true
    · rw [canonicalSdl_eq_empty_iff hd, ofDocument_normal_eq_ok_none_iff]
      simp only [hd, reduceCtorEq, false_or]
    · simp [canonicalSdl_of_not_hasTypeSystem hd, hd]
  showsRoots := by
    -- without faults there is no error, and with a query root there is a schema
    intro hd hlacks hquery hmutation
    cases hschema : Schema.ofDocument external d.normal with
    | error e =>
      rcases ofDocument_normal_eq_error_iff.1 hschema with hfault | ⟨-, hfault⟩
      · exact absurd hfault (hquery e)
      · exact absurd hfault (hmutation e)
    | ok schema =>
      cases schema with
      | none => exact absurd (ofDocument_normal_eq_ok_none_iff.1 hschema).1 hlacks
      | some s =>
        refine ⟨_, ?_, text_renditionOf_ne_empty _ s c, showsRoots_text hschema⟩
        rw [canonicalSdl_eq_map hd, hschema]
        rfl
  subscriptions f := by
    rw [canonicalSdl, rendition_withSubscriptions, canonicalSdl]

end Document

end CanonicalSdl

import CanonicalSdl.Proofs.Rendition.Types

/-!
# The order of declarations

The order in which a document declares its types does not show in its canonical text, nor does the
order of the fields of its object and input object types, nor that of the external types. Only
directive definitions are rendered in the order they have.
-/

namespace CanonicalSdl

/-! ### Declarations in another order -/

/-- Two types differ at most in the order of their fields, if they are object or input object types
whose fields have distinct names. -/
inductive TypeDefinition.SameUpToFields : TypeDefinition → TypeDefinition → Prop where
  | refl (t) : SameUpToFields t t
  | object {description name directives interfaces fields fields'}
      (perm : fields.Perm fields') (nodup : (fields.map Field.name).Nodup) :
      SameUpToFields ⟨description, name, directives, .object interfaces fields⟩
        ⟨description, name, directives, .object interfaces fields'⟩
  | input {description name directives fields fields'}
      (perm : fields.Perm fields') (nodup : (fields.map InputValue.name).Nodup) :
      SameUpToFields ⟨description, name, directives, .input fields⟩
        ⟨description, name, directives, .input fields'⟩

/-- Two definitions differ at most in the order of the fields of a type. -/
inductive Definition.SameUpToFields : Definition → Definition → Prop where
  | refl (definition) : SameUpToFields definition definition
  | type {t u} (same : t.SameUpToFields u) : SameUpToFields (.type t) (.type u)

/-- The types of the second list are those of the first in some order, up to the order of their
fields. -/
def TypeDefinition.Reordered (types types' : List TypeDefinition) : Prop :=
  ∃ ts, types.Perm ts ∧ List.Forall₂ TypeDefinition.SameUpToFields ts types'

/-- The second document has the definitions of the first in some order, up to the order of fields,
and its directive definitions in the same order. -/
structure Document.Reordered (d d' : Document) : Prop where
  definitions : ∃ definitions, d.definitions.Perm definitions ∧
    List.Forall₂ Definition.SameUpToFields definitions d'.definitions
  directiveDefinitions : d.directiveDefinitions = d'.directiveDefinitions

variable {external external' : List TypeDefinition} {d d' : Document} {t u : TypeDefinition}

/-! ### Normal forms of reordered documents -/

lemma sortByBytes_name_eq_of_perm {α : Type} {name : α → String} {as bs : List α}
    (hperm : as.Perm bs) (hnodup : (as.map name).Nodup) :
    sortByBytes (fun a => Text.utf8 (name a)) as = sortByBytes (fun a => Text.utf8 (name a)) bs :=
  sortByBytes_eq_of_perm hperm fun _ ha _ hb heq =>
    List.inj_on_of_nodup_map hnodup ha hb (Text.utf8_injective heq)

lemma TypeDefinition.SameUpToFields.normal_eq (h : t.SameUpToFields u) : t.normal = u.normal := by
  cases h with
  | refl => rfl
  | object perm nodup => simp only [normal, sortByBytes_name_eq_of_perm perm nodup]
  | input perm nodup => simp only [normal, sortByBytes_name_eq_of_perm perm nodup]

lemma Definition.SameUpToFields.normal_eq {a b : Definition} (h : a.SameUpToFields b) :
    a.normal = b.normal := by
  cases h with
  | refl => rfl
  | type same => exact congrArg Definition.type same.normal_eq

lemma map_eq_of_forall₂ {α β : Type} {R : α → α → Prop} {f : α → β} {as bs : List α}
    (h : List.Forall₂ R as bs) (hf : ∀ a b, R a b → f a = f b) : as.map f = bs.map f := by
  induction h with
  | nil => rfl
  | cons hab _ ih => rw [List.map_cons, List.map_cons, hf _ _ hab, ih]

lemma TypeDefinition.Reordered.map_normal_perm (h : Reordered external external') :
    (external.map TypeDefinition.normal).Perm (external'.map TypeDefinition.normal) := by
  obtain ⟨ts, hperm, hsame⟩ := h
  rw [← map_eq_of_forall₂ hsame fun _ _ => SameUpToFields.normal_eq]
  exact hperm.map _

namespace Document.Reordered

variable (h : d.Reordered d')

include h

lemma map_normal_perm :
    (d.definitions.map Definition.normal).Perm (d'.definitions.map Definition.normal) := by
  obtain ⟨definitions, hperm, hsame⟩ := h.definitions
  rw [← map_eq_of_forall₂ hsame fun _ _ => Definition.SameUpToFields.normal_eq]
  exact hperm.map _

/-- The normal forms have the same definitions. They need not be in the same order, as definitions
of different kinds can have one key. -/
lemma normal_perm : d.normal.definitions.Perm d'.normal.definitions :=
  d.normal_definitions_perm.trans (h.map_normal_perm.trans d'.normal_definitions_perm.symm)

lemma normal_types_perm : d.normal.types.Perm d'.normal.types :=
  h.normal_perm.filterMap _

lemma normal_requestedNames_perm : d.normal.requestedNames.Perm d'.normal.requestedNames :=
  (h.normal_types_perm.filter _).flatMap_right _

lemma hasTypeSystem_eq : d.hasTypeSystem = d'.hasTypeSystem := by
  have hnormal (definition : Definition) :
      definition.normal.isTypeSystem = definition.isTypeSystem := by
    cases definition <;> rfl
  have hany (d : Document) :
      d.hasTypeSystem = (d.definitions.map Definition.normal).any Definition.isTypeSystem := by
    simp only [hasTypeSystem, List.any_map, Function.comp_def, hnormal]
  rw [hany, hany]
  exact h.map_normal_perm.any_eq

lemma normal_schema?_eq (hone : (d.definitions.filterMap Definition.schema?).length ≤ 1) :
    d.normal.schema? = d'.normal.schema? := by
  have hperm := h.normal_perm.filterMap Definition.schema?
  have hlength : (d.normal.definitions.filterMap Definition.schema?).length ≤ 1 := by
    rwa [d.normal_schemas]
  -- with one schema definition at most, a permutation leaves no choice of the first one
  rw [schema?_eq_head?, schema?_eq_head?]
  match hs : d.normal.definitions.filterMap Definition.schema? with
  | [] => rw [hs] at hperm; rw [hperm.nil_eq]
  | [s] => rw [hs] at hperm; rw [List.perm_singleton.1 hperm.symm]
  | s :: s' :: rest => simp [hs] at hlength

end Document.Reordered

/-! ### Schemas and renditions of reordered documents -/

namespace Schema

lemma pool_perm (h : d.Reordered d') (he : TypeDefinition.Reordered external external') :
    (pool external d.normal).Perm (pool external' d'.normal) := by
  have htypes := h.normal_types_perm
  have hany (n : String) : d.normal.types.any (·.name == n) = d'.normal.types.any (·.name == n) :=
    htypes.any_eq
  simp only [pool, hany]
  exact htypes.append (he.map_normal_perm.filter _)

/-- The schema with its pool in another order. -/
def withTypes (s : Schema) (types : List TypeDefinition) : Schema :=
  { s with types := types }

end Schema

section

variable (hd : d.Reordered d') (he : TypeDefinition.Reordered external external')
  (hone : (d.definitions.filterMap Definition.schema?).length ≤ 1)
  (hnames : (d.types.map (·.name)).Nodup) (henames : (external.map (·.name)).Nodup)

include hd he hone hnames henames

/-- The second document has the same schema, but for the order of the pool, or the same error. -/
lemma ofDocument_eq_map_withTypes :
    Schema.ofDocument external' d'.normal =
      (Schema.ofDocument external d.normal).map
        (Option.map fun s => s.withTypes (Schema.pool external' d'.normal)) := by
  have hpool := Schema.nodup_pool (Schema.nodup_types_normal hnames) henames
  -- names are distinct in the pool, so that every look-up finds the same type in both orders
  have hroot (operation : RootOperation) (declared : Option String) :
      Schema.rootType (Schema.pool external' d'.normal) operation declared =
        Schema.rootType (Schema.pool external d.normal) operation declared :=
    Schema.rootType_congr fun n => (Schema.find?_eq_of_perm hpool (Schema.pool_perm hd he) n).symm
  simp only [Schema.ofDocument, hroot, ← hd.normal_schema?_eq hone]
  cases Schema.rootType (Schema.pool external d.normal) .query
      (d.normal.schema?.bind (·.root? .query)) with
  | error e => rfl
  | ok query =>
    cases Schema.rootType (Schema.pool external d.normal) .mutation
        (d.normal.schema?.bind (·.root? .mutation)) with
    | error e => rfl
    | ok mutation => cases query <;> rfl

/-- What is rendered of a schema does not depend on the order of its pool. -/
lemma renditionOf_withTypes {s : Schema}
    (hs : Schema.ofDocument external d.normal = .ok (some s)) :
    d'.normal.renditionOf (s.withTypes (Schema.pool external' d'.normal)) =
      d.normal.renditionOf s := by
  have hpool := Schema.nodup_pool (Schema.nodup_types_normal hnames) henames
  have hperm := Schema.pool_perm hd he
  have htypes : s.types = Schema.pool external d.normal :=
    (Schema.ofDocument_eq_ok_some_iff.1 hs).2.2.2
  have hrooted : (s.withTypes (Schema.pool external' d'.normal)).rootedTypes = s.rootedTypes := by
    rw [Schema.rootedTypes, Schema.typesFrom, Schema.rootedTypes, Schema.typesFrom, htypes]
    exact ((Schema.interchangeable_of_perm hpool hperm).closure_eq fun n => Iff.rfl).symm
  have hrequested : (s.withTypes (Schema.pool external' d'.normal)).requestedTypes
      d'.normal.requestedNames = s.requestedTypes d.normal.requestedNames := by
    rw [Schema.requestedTypes, Schema.typesFrom, Schema.requestedTypes, Schema.typesFrom, htypes]
    refine ((Schema.interchangeable_of_perm hpool hperm).closure_eq fun n => ?_).symm
    simp only [Schema.withTypes, List.mem_map, List.mem_filter, List.contains_iff_mem,
      hperm.mem_iff, hd.normal_requestedNames_perm.mem_iff]
  have hdirectiveDefinitions :
      d'.normal.directiveDefinitions = d.normal.directiveDefinitions := by
    rw [Document.normal_directiveDefinitions, Document.normal_directiveDefinitions,
      hd.directiveDefinitions]
  rw [renditionOf_eq, renditionOf_eq, hrooted, hrequested, hdirectiveDefinitions,
    hd.normal_schema?_eq hone]
  rfl

/-- The order of declarations shows neither in what is rendered nor in the error if there is one. -/
lemma rendition_eq_of_reordered : d'.rendition external' = d.rendition external := by
  rw [Document.rendition, Document.rendition, hd.hasTypeSystem_eq,
    ofDocument_eq_map_withTypes hd he hone hnames henames]
  split
  · cases hs : Schema.ofDocument external d.normal with
    | error e => rfl
    | ok schema =>
      cases schema with
      | none => rfl
      | some s => exact congrArg Except.ok (renditionOf_withTypes hd he hone hnames henames hs)
  · rfl

end

/-- The canonical text of a document does not depend on the order of its declarations, nor on that
of the external types, and neither does the error if it has none. -/
theorem Document.canonicalSdl_eq_of_reordered (hd : d.Reordered d')
    (he : TypeDefinition.Reordered external external')
    (hone : (d.definitions.filterMap Definition.schema?).length ≤ 1)
    (hnames : (d.types.map (·.name)).Nodup) (henames : (external.map (·.name)).Nodup)
    (c : RenderSettings) :
    d'.canonicalSdl external' c = d.canonicalSdl external c := by
  rw [canonicalSdl, canonicalSdl, rendition_eq_of_reordered hd he hone hnames henames]

/-- A document in which a scalar type and an interface have the same key. -/
def Document.collision : Document where
  definitions := [
    .type { name := "zz", body := .scalar },
    .type { name := "czz", body := .interface [] [{ name := "x", type := .named "zz" }] },
    .type {
      name := "Query"
      body := .object [] [
        { name := "b", type := .named "czz" }, { name := "a", type := .named "zz" }] }]

/-- The same document the other way round. -/
def Document.collisionReordered : Document where
  definitions := [
    .type {
      name := "Query"
      body := .object [] [
        { name := "a", type := .named "zz" }, { name := "b", type := .named "czz" }] },
    .type { name := "czz", body := .interface [] [{ name := "x", type := .named "zz" }] },
    .type { name := "zz", body := .scalar }]

lemma Document.reordered_collision : Document.collision.Reordered .collisionReordered := by
  constructor
  case definitions =>
    refine ⟨_, (List.reverse_perm _).symm, ?_⟩
    refine .cons (.type (.object (.swap _ _ _) ?_)) (.cons (.refl _) (.cons (.refl _) .nil))
    simp
  case directiveDefinitions => rfl

theorem Document.canonicalSdl_eq_of_reordered_collision :
    Document.collision.Reordered .collisionReordered ∧
      Document.collisionReordered.canonicalSdl [] {} = Document.collision.canonicalSdl [] {} := by
  refine ⟨reordered_collision, canonicalSdl_eq_of_reordered reordered_collision ?_ ?_ ?_ ?_ {}⟩
  · exact ⟨[], .refl [], .nil⟩
  · decide
  · decide
  · exact List.nodup_nil

end CanonicalSdl

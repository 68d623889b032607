import CanonicalSdl.Proofs.Schema.Closure
import CanonicalSdl.Proofs.Document.NormalForm

/-!
# Schemas of normal forms

If its types have distinct names, a document means the same as its normal form: both have a schema
or neither has one, for the same reason, and the schema of the normal form has the normal forms of
the roots, of the types that can be reached, and of the types that are asked for.
-/

namespace CanonicalSdl

variable {external types types' : List TypeDefinition} {d : Document} {s s' : Schema}
  {names names' : List String} {t u : TypeDefinition} {n m : String}

/-! ### What the normal form of a type keeps -/

namespace TypeDefinition

@[simp] lemma normal_implements (t : TypeDefinition) : t.normal.implements = t.implements := by
  obtain ⟨description, name, directives, body⟩ := t
  cases body <;> rfl

@[simp] lemma normal_orderKey (t : TypeDefinition) : t.normal.orderKey = t.orderKey := by
  obtain ⟨description, name, directives, body⟩ := t
  cases body <;> rfl

/-- Sorting fields does not change which names a type refers to. -/
lemma references_normal_perm (t : TypeDefinition) : t.normal.references.Perm t.references := by
  obtain ⟨description, name, directives, body⟩ := t
  cases body with
  | input fields => exact (sortByBytes_perm _ fields).map _
  | object interfaces fields =>
    exact ((sortByBytes_perm _ fields).flatMap_right Field.references).append_left interfaces
  | _ => exact .refl _

lemma precedes_normal_iff : t.normal.Precedes u.normal ↔ t.Precedes u := by
  simp only [Precedes, normal_orderKey, normal_name]

end TypeDefinition

namespace Schema

/-! ### Pools of normal forms -/

lemma find?_map_normal (types : List TypeDefinition) (n : String) :
    (types.map TypeDefinition.normal).find? (·.name == n) =
      (types.find? (·.name == n)).map TypeDefinition.normal := by
  simp only [List.find?_map, Function.comp_def, TypeDefinition.normal_name]

lemma last?_map_normal (types : List TypeDefinition) (n : String) :
    last? (types.map TypeDefinition.normal) n = (last? types n).map TypeDefinition.normal := by
  rw [last?, ← List.map_reverse, find?_map_normal, last?]

lemma mem_implementations_map_normal :
    m ∈ implementations (types.map TypeDefinition.normal) n ↔ m ∈ implementations types n := by
  simp [mem_implementations]

lemma follows_map_normal (types : List TypeDefinition) :
    Follows (types.map TypeDefinition.normal) = Follows types := by
  funext n m
  rw [eq_iff_iff, follows_iff, follows_iff]
  simp only [last?_map_normal, mem_implementations_map_normal, Option.map_eq_some_iff,
    exists_exists_and_eq_and, (TypeDefinition.references_normal_perm _).mem_iff]

/-- From the normal forms of some types the normal forms of what the types reach are reached, in the
same order. -/
lemma closure_map_normal (types : List TypeDefinition) (names : List String) :
    closure (types.map TypeDefinition.normal) names =
      (closure types names).map TypeDefinition.normal := by
  apply eq_of_pairwise_precedes pairwise_closure _ nodup_closure
  · rw [map_name_normal]
    exact nodup_closure
  · intro t
    simp only [mem_closure_iff, List.mem_map, last?_map_normal, Option.map_eq_some_iff, ReachedFrom,
      follows_map_normal]
    constructor
    · rintro ⟨hcustom, ⟨u, hlast, rfl⟩, hreached⟩
      rw [TypeDefinition.normal_name] at hcustom hlast hreached
      exact ⟨u, ⟨hcustom, hlast, hreached⟩, rfl⟩
    · rintro ⟨u, ⟨hcustom, hlast, hreached⟩, rfl⟩
      rw [TypeDefinition.normal_name]
      exact ⟨hcustom, ⟨u, hlast, rfl⟩, hreached⟩
  · rw [List.pairwise_map]
    exact pairwise_closure.imp TypeDefinition.precedes_normal_iff.2

lemma rootType_map_normal (types : List TypeDefinition) (operation : RootOperation)
    (declared : Option String) :
    rootType (types.map TypeDefinition.normal) operation declared =
      (rootType types operation declared).map (Option.map TypeDefinition.normal) := by
  cases declared with
  | some name =>
    simp only [rootType, find?_map_normal]
    cases types.find? (·.name == name) with
    | none => rfl
    | some t => cases hobject : t.isObject <;> simp [hobject, Except.map]
  | none =>
    simp only [rootType, find?_map_normal]
    cases types.find? (·.name == operation.conventionalName) with
    | none => rfl
    | some t => cases hobject : t.isObject <;> simp [hobject, Except.map]

/-- The document takes the same external types as its normal form. -/
lemma pool_normal (external : List TypeDefinition) (d : Document) :
    pool external d.normal = d.normal.types ++
      (external.map TypeDefinition.normal).filter fun t => !d.types.any (·.name == t.name) := by
  have hany (n : String) : d.normal.types.any (·.name == n) = d.types.any (·.name == n) := by
    rw [d.normal_types_perm.any_eq, List.any_map]
    simp only [Function.comp_def, TypeDefinition.normal_name]
  simp only [pool, hany]

/-- The pool of a normal form can stand for the normal forms of the types of the pool. -/
lemma interchangeable_pool_normal (external : List TypeDefinition)
    (hnames : (d.types.map (·.name)).Nodup) :
    Interchangeable (pool external d.normal) ((pool external d).map TypeDefinition.normal) := by
  have hexternal : ((external.map TypeDefinition.normal).filter
      fun t => !d.types.any (·.name == t.name)).map TypeDefinition.normal =
        (external.map TypeDefinition.normal).filter fun t => !d.types.any (·.name == t.name) := by
    refine (List.map_congr_left fun t ht => ?_).trans (List.map_id _)
    exact TypeDefinition.normal_of_mem_map (List.mem_filter.1 ht).1
  rw [pool_normal, pool, List.map_append, hexternal]
  exact (interchangeable_of_perm (nodup_types_normal hnames) d.normal_types_perm).append _

/-! ### Schemas -/

/-- The schema has the normal forms of another one: of its roots, of its pool in some order, and, in
the order they have, of the types that can be reached. -/
structure IsNormalFormOf (s' s : Schema) : Prop where
  query : s'.query = s.query.normal
  mutation : s'.mutation = s.mutation.map TypeDefinition.normal
  subscription : s'.subscription = s.subscription.map TypeDefinition.normal
  types : s'.types.Perm (s.types.map TypeDefinition.normal)
  rootedTypes : s'.rootedTypes = s.rootedTypes.map TypeDefinition.normal
  typesFrom : ∀ names, s'.typesFrom names = (s.typesFrom names).map TypeDefinition.normal

/-- The schema with the normal forms of its roots, and another pool. -/
def normalWith (types : List TypeDefinition) (s : Schema) : Schema where
  query := s.query.normal
  mutation := s.mutation.map TypeDefinition.normal
  subscription := s.subscription.map TypeDefinition.normal
  types := types

/-- The schema of the normal form of a document, or the error if it cannot be resolved. -/
lemma ofDocument_normal (external : List TypeDefinition) (hnames : (d.types.map (·.name)).Nodup) :
    ofDocument external d.normal =
      (ofDocument external d).map (Option.map (normalWith (pool external d.normal))) := by
  have hroot (operation : RootOperation) (declared : Option String) :
      rootType (pool external d.normal) operation declared =
        (rootType (pool external d) operation declared).map (Option.map TypeDefinition.normal) := by
    rw [rootType_congr (interchangeable_pool_normal external hnames).first, rootType_map_normal]
  simp only [ofDocument, hroot, d.normal_schema?]
  -- what is left is the same on both sides, whatever becomes of the three roots
  generalize rootType (pool external d) .query _ = query
  generalize rootType (pool external d) .mutation _ = mutation
  generalize rootType (pool external d) .subscription _ = subscription
  cases query with
  | error e => rfl
  | ok query =>
    cases mutation with
    | error e => rfl
    | ok mutation =>
      cases query with
      | none => rfl
      | some query =>
        cases subscription with
        | error e => rfl
        | ok subscription => cases subscription <;> rfl

lemma typesFrom_normalWith (h : Interchangeable types (s.types.map TypeDefinition.normal))
    (hnames : ∀ n, n ∈ names ↔ n ∈ names') :
    (s.normalWith types).typesFrom names = (s.typesFrom names').map TypeDefinition.normal := by
  rw [typesFrom, typesFrom, ← closure_map_normal]
  exact h.closure_eq hnames

lemma rootNames_normalWith (types : List TypeDefinition) (s : Schema) :
    (s.normalWith types).rootNames = s.rootNames := by
  simp [rootNames, normalWith, Function.comp_def]

lemma isNormalFormOf_normalWith (h : Interchangeable types (s.types.map TypeDefinition.normal)) :
    (s.normalWith types).IsNormalFormOf s where
  query := rfl
  mutation := rfl
  subscription := rfl
  types := h.perm
  rootedTypes := by
    rw [rootedTypes, rootNames_normalWith, typesFrom_normalWith h fun n => Iff.rfl, rootedTypes]
  typesFrom := fun names => typesFrom_normalWith h fun n => Iff.rfl

lemma mem_names_requested {quotedNames : List String} :
    n ∈ (types.filter fun t => quotedNames.contains (Text.quoted t.name)).map (·.name) ↔
      n ∈ types.map (·.name) ∧ Text.quoted n ∈ quotedNames := by
  simp only [List.mem_map, List.mem_filter, List.contains_iff_mem]
  constructor
  · rintro ⟨t, ⟨ht, hasked⟩, rfl⟩
    exact ⟨⟨t, ht, rfl⟩, hasked⟩
  · rintro ⟨⟨t, ht, rfl⟩, hasked⟩
    exact ⟨t, ⟨ht, hasked⟩, rfl⟩

/-- The types that a document asks for have the normal forms of those that its normal form
asks for. -/
lemma requestedTypes_normalWith (h : Interchangeable types (s.types.map TypeDefinition.normal)) :
    (s.normalWith types).requestedTypes d.normal.requestedNames =
      (s.requestedTypes d.requestedNames).map TypeDefinition.normal := by
  apply typesFrom_normalWith h
  intro n
  rw [mem_names_requested, mem_names_requested, normalWith, (h.perm.map _).mem_iff,
    map_name_normal, d.normal_requestedNames_perm.mem_iff]

/-- A document whose types have distinct names cannot be resolved if its normal form cannot, for the
same reason; it has no schema if its normal form has none; and the schema of its normal form is the
normal form of its schema, also in which types are asked for. -/
theorem ofDocument_normal_characterization (external : List TypeDefinition)
    (hnames : (d.types.map (·.name)).Nodup) :
    (∀ e, ofDocument external d.normal = .error e ↔ ofDocument external d = .error e) ∧
      (ofDocument external d.normal = .ok none ↔ ofDocument external d = .ok none) ∧
      ∀ s, ofDocument external d = .ok (some s) →
        ∃ s', ofDocument external d.normal = .ok (some s') ∧ s'.IsNormalFormOf s ∧
          s'.requestedTypes d.normal.requestedNames =
            (s.requestedTypes d.requestedNames).map TypeDefinition.normal := by
  rw [ofDocument_normal external hnames]
  refine ⟨fun e => ?_, ?_, fun s hs => ?_⟩
  · cases ofDocument external d <;> simp [Except.map]
  · cases ofDocument external d <;> simp [Except.map]
  · have hpool : Interchangeable (pool external d.normal) (s.types.map TypeDefinition.normal) := by
      rw [(ofDocument_eq_ok_some_iff.1 hs).2.2.2]
      exact interchangeable_pool_normal external hnames
    refine ⟨s.normalWith (pool external d.normal), ?_, isNormalFormOf_normalWith hpool,
      requestedTypes_normalWith hpool⟩
    rw [hs]
    rfl

/-- A document whose fields and types are out of order, and that asks for another type. -/
def untidyDocument : Document where
  definitions := [
    .type {
      name := "Query"
      directives := [{ name := "extends", arguments := [("types", .list [.string "Extra"])] }]
      body := .object [] [
        { name := "b", type := .named "Unit" }, { name := "a", type := .named "Int" }] },
    .type { name := "Unit", body := .enum [{ name := "METRE" }] }]

/-- Two types of the name that is asked for. -/
def twoExtras : List TypeDefinition :=
  [{ name := "Extra", body := .scalar }, { name := "Extra", body := .union ["Query"] }]

theorem ofDocument_normal_characterization_untidyDocument :
    (untidyDocument.types.map (·.name)).Nodup ∧
      ∃ s s', ofDocument twoExtras untidyDocument = .ok (some s) ∧
        ofDocument twoExtras untidyDocument.normal = .ok (some s') ∧ s'.IsNormalFormOf s ∧
        s'.requestedTypes untidyDocument.normal.requestedNames =
          (s.requestedTypes untidyDocument.requestedNames).map TypeDefinition.normal := by
  have hnames : (untidyDocument.types.map (·.name)).Nodup := by decide
  have hs : ofDocument twoExtras untidyDocument =
      .ok (some ⟨untidyDocument.types[0], none, none, untidyDocument.types ++ twoExtras⟩) := rfl
  obtain ⟨s', hs', hnormal, hrequested⟩ :=
    (ofDocument_normal_characterization twoExtras hnames).2.2 _ hs
  exact ⟨hnames, _, s', hs, hs', hnormal, hrequested⟩

end Schema

end CanonicalSdl

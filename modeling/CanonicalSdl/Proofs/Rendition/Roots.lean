import CanonicalSdl.Proofs.Document.NormalForm
import CanonicalSdl.Proofs.Rendition.Types

/-!
# The roots that are rendered

The root of an operation is the first type of its name, while of several types with one name the
last is rendered. Where the root is the last type of its name too, and the name is not that of a
built-in scalar type, the root is rendered as it was resolved.
-/

namespace CanonicalSdl

open Schema (last?)

variable {external : List TypeDefinition} {d : Document} {s : Schema} {t root : TypeDefinition}
  {types : List TypeDefinition}

/-- The type is the query root or the mutation root. -/
def Schema.IsRoot (s : Schema) (root : TypeDefinition) : Prop :=
  root = s.query ∨ s.mutation = some root

/-- Of the given types, the root is the one that has its name. -/
def ShowsRoot (types : List TypeDefinition) (root : TypeDefinition) : Prop :=
  types.filter (·.name == root.name) = [root]

/-! ### Roots -/

lemma Schema.IsRoot.name_mem (h : s.IsRoot root) : root.name ∈ s.rootNames := by
  rcases h with rfl | h
  · exact List.mem_cons_self
  · simp [rootNames, h]

lemma Schema.IsRoot.isObject (h : s.IsRoot root)
    (hs : Schema.ofDocument external d = .ok (some s)) : root.isObject = true := by
  obtain ⟨hquery, hmutation, -, -⟩ := Schema.ofDocument_eq_ok_some_iff.1 hs
  rcases h with rfl | h
  · exact (rootType_eq_ok_some hquery).2
  · rw [h] at hmutation
    exact (rootType_eq_ok_some hmutation).2

lemma showsRoot_of_mem (hnodup : (types.map (·.name)).Nodup) (h : root ∈ types) :
    ShowsRoot types root := by
  apply List.perm_singleton.1
  rw [List.perm_ext_iff_of_nodup (hnodup.of_map.filter _) (List.nodup_singleton root)]
  intro t
  rw [List.mem_filter, beq_iff_eq, List.mem_singleton]
  constructor
  · rintro ⟨ht, hname⟩
    exact List.inj_on_of_nodup_map hnodup ht h hname
  · rintro rfl
    exact ⟨h, rfl⟩

lemma ShowsRoot.mem (h : ShowsRoot types root) : root ∈ types := by
  have hmem : root ∈ types.filter (·.name == root.name) := by rw [h]; exact List.mem_cons_self
  exact (List.mem_filter.1 hmem).1

/-- A root is rendered if its name stands for it, and not otherwise. -/
lemma showsRoot_renditionOf_iff (hroot : s.IsRoot root) :
    ShowsRoot (d.renditionOf s).types root ↔
      root.name ∉ builtinScalars ∧ last? s.types root.name = some root := by
  constructor
  · intro h
    obtain ⟨hbuiltin, hlast, -⟩ := mem_types_renditionOf_iff.1 h.mem
    exact ⟨hbuiltin, hlast⟩
  · rintro ⟨hbuiltin, hlast⟩
    apply showsRoot_of_mem (nodup_types_renditionOf d s)
    rw [mem_types_renditionOf_iff]
    exact ⟨hbuiltin, hlast, root.name, List.mem_append_left _ hroot.name_mem, .refl⟩

/-- In what is rendered of a document with a type system and a query root, each root that is the
last type of its name, and has not the name of a built-in scalar type, is the type that has its
name. -/
theorem Document.showsRoot_rendition (hd : d.hasTypeSystem = true)
    (hs : Schema.ofDocument external d.normal = .ok (some s)) :
    ∃ r, d.rendition external = .ok r ∧ ∀ root, s.IsRoot root → root.name ∉ builtinScalars →
      last? s.types root.name = some root → root.isObject = true ∧ ShowsRoot r.types root :=
  ⟨_, rendition_eq_renditionOf hd hs, fun _ hroot hbuiltin hlast =>
    ⟨hroot.isObject hs, (showsRoot_renditionOf_iff hroot).2 ⟨hbuiltin, hlast⟩⟩⟩

/-- An object type with one field of a built-in scalar type. -/
def TypeDefinition.withField (name field : String) : TypeDefinition where
  name := name
  body := .object [] [{ name := field, type := .named "Int" }]

lemma TypeDefinition.normal_withField (name field : String) :
    (withField name field).normal = withField name field := by
  simp [withField, normal, sortByBytes]

/-- A document that declares both roots. -/
def Document.twoRoots : Document where
  definitions := [
    .schema { query := some "Root", mutation := some "Change" },
    .type (.withField "Change" "b"), .type (.withField "Root" "a")]

/-- The schema of that document. -/
def Schema.twoRoots : Schema where
  query := .withField "Root" "a"
  mutation := some (.withField "Change" "b")
  subscription := none
  types := [.withField "Change" "b", .withField "Root" "a"]

lemma Document.ofDocument_twoRoots :
    Schema.ofDocument [] Document.twoRoots.normal = .ok (some .twoRoots) := by
  have hnormal : Document.twoRoots.normal = .twoRoots := by
    apply normal_eq_self
    · simp [twoRoots, Definition.normal, TypeDefinition.normal_withField]
    · decide
  rw [hnormal]
  rfl

theorem Document.showsRoot_rendition_twoRoots :
    Document.twoRoots.hasTypeSystem = true ∧
      Schema.ofDocument [] Document.twoRoots.normal = .ok (some .twoRoots) ∧
      ∃ r, Document.twoRoots.rendition [] = .ok r ∧
        ShowsRoot r.types (.withField "Root" "a") ∧
        ShowsRoot r.types (.withField "Change" "b") := by
  obtain ⟨r, hr, hroots⟩ := showsRoot_rendition (d := .twoRoots) rfl ofDocument_twoRoots
  refine ⟨rfl, ofDocument_twoRoots, r, hr, ?_, ?_⟩
  · exact (hroots _ (.inl rfl) (by decide) rfl).2
  · exact (hroots _ (.inr rfl) (by decide) rfl).2

/-! ### Roots that are not rendered -/

/-- If the document has a schema, each root is rendered as it was resolved. -/
def Document.RendersRoots (external : List TypeDefinition) (d : Document) : Prop :=
  ∀ s, Schema.ofDocument external d.normal = .ok (some s) →
    ∃ r, d.rendition external = .ok r ∧ ∀ root, s.IsRoot root → ShowsRoot r.types root

/-- A document whose query root has the name of a built-in scalar type. -/
def Document.rootNamedString : Document where
  definitions := [.schema { query := some "String" }, .type (.withField "String" "a")]

/-- A document with two types that have the conventional name of the query root. -/
def Document.twoQueries : Document where
  definitions := [.type (.withField "Query" "a"), .type (.withField "Query" "b")]

/-- A schema of the given types without other roots than the query root. -/
def Schema.ofQuery (query : TypeDefinition) (types : List TypeDefinition) : Schema where
  query := query
  mutation := none
  subscription := none
  types := types

lemma Document.ofDocument_empty :
    Schema.ofDocument [.withField "Query" "a"] (normal {}) =
      .ok (some (.ofQuery (.withField "Query" "a") [.withField "Query" "a"])) := by
  rw [normal_eq_self (by simp) (by simp), Schema.ofDocument, Schema.pool, List.map_singleton,
    TypeDefinition.normal_withField]
  rfl

lemma Document.ofDocument_rootNamedString :
    Schema.ofDocument [] rootNamedString.normal =
      .ok (some (.ofQuery (.withField "String" "a") [.withField "String" "a"])) := by
  have hnormal : rootNamedString.normal = rootNamedString := by
    apply normal_eq_self
    · simp [rootNamedString, Definition.normal, TypeDefinition.normal_withField]
    · decide
  rw [hnormal]
  rfl

lemma Document.ofDocument_twoQueries :
    Schema.ofDocument [] twoQueries.normal = .ok (some (.ofQuery (.withField "Query" "a")
      [.withField "Query" "a", .withField "Query" "b"])) := by
  have hnormal : twoQueries.normal = twoQueries := by
    apply normal_eq_self
    · simp [twoQueries, Definition.normal, TypeDefinition.normal_withField]
    · decide
  rw [hnormal]
  rfl

lemma Document.RendersRoots.name_stands (h : d.RendersRoots external) (hd : d.hasTypeSystem = true)
    (hs : Schema.ofDocument external d.normal = .ok (some s)) :
    s.query.name ∉ builtinScalars ∧ last? s.types s.query.name = some s.query := by
  obtain ⟨r, hr, hroots⟩ := h s hs
  rw [rendition_eq_renditionOf hd hs, Except.ok.injEq] at hr
  rw [← showsRoot_renditionOf_iff (d := d.normal) (.inl rfl), hr]
  exact hroots _ (.inl rfl)

/-- A root is not rendered if the document has no type system, if the root has the name of a
built-in scalar type, or if another type of its name follows it. -/
theorem Document.not_rendersRoots :
    ¬ RendersRoots [.withField "Query" "a"] {} ∧
      ¬ RendersRoots [] .rootNamedString ∧
      ¬ RendersRoots [] .twoQueries := by
  refine ⟨fun h => ?_, fun h => ?_, fun h => ?_⟩
  · obtain ⟨r, hr, hroots⟩ := h _ ofDocument_empty
    obtain rfl : {} = r := Except.ok.inj hr
    exact List.not_mem_nil (hroots _ (.inl rfl)).mem
  · exact (h.name_stands rfl ofDocument_rootNamedString).1 (by decide)
  · have hlast := (h.name_stands rfl ofDocument_twoQueries).2
    -- the last type of the name has another field
    have hother : TypeDefinition.withField "Query" "b" = .withField "Query" "a" :=
      Option.some.inj hlast
    simp [TypeDefinition.withField] at hother

end CanonicalSdl

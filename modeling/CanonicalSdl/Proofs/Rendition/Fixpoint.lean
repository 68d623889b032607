import CanonicalSdl.Proofs.Rendition.Document
import CanonicalSdl.Proofs.Rendition.Types

/-!
# Rendering what has been rendered

What is rendered of a document is complete: the document that declares just that needs no external
types, and the same is rendered of it.
-/

namespace CanonicalSdl

namespace Schema

variable {types part : List TypeDefinition} {names : List String} {t : TypeDefinition}
  {n m a : String}

/-! ### Parts of a pool that are closed under steps -/

/-- Types that are part of a pool of types with distinct names, and to which no step adds another
type of the pool. -/
structure IsClosedPart (types part : List TypeDefinition) : Prop where
  nodup : (types.map (·.name)).Nodup
  nodup_part : (part.map (·.name)).Nodup
  subset : ∀ t ∈ part, t ∈ types
  closed : ∀ n ∈ part.map (·.name), ∀ m, Follows types n m → m ∉ builtinScalars →
    m ∈ types.map (·.name) → m ∈ part.map (·.name)

namespace IsClosedPart

variable (h : IsClosedPart types part)

include h

/-- A type of the pool whose name is in the part is in the part itself. -/
lemma mem_of_name_mem (ht : t ∈ types) (hname : t.name ∈ part.map (·.name)) : t ∈ part := by
  obtain ⟨u, hu, heq⟩ := List.mem_map.1 hname
  rwa [List.inj_on_of_nodup_map h.nodup ht (h.subset u hu) heq.symm]

lemma last?_of_part (hlast : last? part n = some t) : last? types n = some t := by
  rw [last?_eq_some_iff_of_nodup h.nodup_part] at hlast
  exact (last?_eq_some_iff_of_nodup h.nodup).2 ⟨h.subset t hlast.1, hlast.2⟩

lemma last?_part (hn : n ∈ part.map (·.name)) (hlast : last? types n = some t) :
    last? part n = some t := by
  obtain ⟨ht, rfl⟩ := (last?_eq_some_iff_of_nodup h.nodup).1 hlast
  exact (last?_eq_some_iff_of_nodup h.nodup_part).2 ⟨h.mem_of_name_mem ht hn, rfl⟩

lemma follows_of_part (hstep : Follows part n m) : Follows types n m := by
  cases hstep with
  | mention custom last mention => exact .mention custom (h.last?_of_part last) mention
  | implementation custom last mem object lists =>
    exact .implementation custom (h.last?_of_part last) (h.subset _ mem) object lists

/-- A step to a type of the part is a step in the part, if it begins in the part. -/
lemma follows_part (hn : n ∈ part.map (·.name)) (hm : m ∈ part.map (·.name))
    (hstep : Follows types n m) : Follows part n m := by
  cases hstep with
  | mention custom last mention => exact .mention custom (h.last?_part hn last) mention
  | implementation custom last mem object lists =>
    exact .implementation custom (h.last?_part hn last) (h.mem_of_name_mem mem hm) object lists

/-- A path from the part to a type of the pool stays in the part. -/
lemma reflTransGen_part (ha : a ∉ builtinScalars → a ∈ types.map (·.name) → a ∈ part.map (·.name))
    (hpath : Relation.ReflTransGen (Follows types) a n) (hn : n ∉ builtinScalars)
    (hmem : n ∈ types.map (·.name)) :
    Relation.ReflTransGen (Follows part) a n ∧ n ∈ part.map (·.name) := by
  induction hpath with
  | refl => exact ⟨.refl, ha hn hmem⟩
  | @tail b c _ hstep ih =>
    obtain ⟨hpath, hb⟩ := ih hstep.custom hstep.mem_names
    have hc := h.closed _ hb c hstep hn hmem
    exact ⟨hpath.tail (h.follows_part hb hc hstep), hc⟩

/-- From names that stand for types of the part only, the same is reached in the pool and in the
part. -/
lemma closure_eq (hnames : ∀ a ∈ names, a ∉ builtinScalars → a ∈ types.map (·.name) →
    a ∈ part.map (·.name)) : closure types names = closure part names := by
  apply closure_eq_of_mem_iff
  intro t
  rw [mem_closure_iff, mem_closure_iff, last?_eq_some_iff_of_nodup h.nodup,
    last?_eq_some_iff_of_nodup h.nodup_part]
  constructor
  · rintro ⟨hbuiltin, ⟨ht, -⟩, a, ha, hpath⟩
    obtain ⟨hpath, hname⟩ :=
      h.reflTransGen_part (hnames a ha) hpath hbuiltin (List.mem_map_of_mem ht)
    exact ⟨hbuiltin, ⟨h.mem_of_name_mem ht hname, rfl⟩, a, ha, hpath⟩
  · rintro ⟨hbuiltin, ⟨ht, -⟩, a, ha, hpath⟩
    refine ⟨hbuiltin, ⟨h.subset t ht, rfl⟩, a, ha, hpath.lift id ?_⟩
    intro n m hstep
    exact h.follows_of_part hstep

end IsClosedPart

/-! ### Types in their normal form -/

lemma normal_of_mem_pool {external : List TypeDefinition} {d : Document}
    (ht : t ∈ pool external d.normal) : t.normal = t := by
  rw [pool, List.mem_append, List.mem_filter] at ht
  rcases ht with ht | ⟨ht, -⟩
  · exact TypeDefinition.normal_of_mem_map (d.normal_types_perm.mem_iff.1 ht)
  · exact TypeDefinition.normal_of_mem_map ht

lemma pool_nil (d : Document) : pool [] d = d.types := by
  simp [pool]

end Schema

variable {external : List TypeDefinition} {d : Document} {s : Schema}

/-! ### The second schema -/

/-- The document of what is rendered of a document that is in its normal form. -/
def renderedDocument (d : Document) (s : Schema) : Document :=
  (d.normal.renditionOf s).asDocument.normal

/-- The schema of that document: the roots are the same, and the pool is what was rendered. -/
def renderedSchema (d : Document) (s : Schema) : Schema where
  query := s.query
  mutation := s.mutation
  subscription := (Schema.rootType (renderedDocument d s).types .subscription none).toOption.join
  types := (renderedDocument d s).types

lemma schema?_renderedDocument :
    (renderedDocument d s).schema? = some (d.normal.renditionOf s).schema := by
  rw [renderedDocument, Document.normal_schema?, Rendition.schema?_asDocument]

section

variable (hs : Schema.ofDocument external d.normal = .ok (some s))

include hs

/-- The types of the second document are those that were rendered. -/
lemma types_renderedDocument_perm :
    (renderedDocument d s).types.Perm (d.normal.renditionOf s).types := by
  have hnormal : ∀ t ∈ (d.normal.renditionOf s).types, t.normal = t := by
    intro t ht
    have hmem := Schema.mem_of_last? (mem_types_renditionOf_iff.1 ht).2.1
    rw [(Schema.ofDocument_eq_ok_some_iff.1 hs).2.2.2] at hmem
    exact Schema.normal_of_mem_pool hmem
  have hperm := (d.normal.renditionOf s).asDocument.normal_types_perm
  rwa [Rendition.types_asDocument, List.map_congr_left hnormal, List.map_id'] at hperm

/-- The names from which the first rendering starts stand for types that were rendered, if they
stand for types at all. -/
lemma mem_names_renderedDocument_of_start {a : String}
    (ha : a ∈ s.startNames d.normal.requestedNames) (hbuiltin : a ∉ builtinScalars)
    (hmem : a ∈ s.types.map (·.name)) : a ∈ (renderedDocument d s).types.map (·.name) := by
  rw [((types_renderedDocument_perm hs).map _).mem_iff,
    (areNeeded_types_renditionOf d.normal s).mem_iff]
  exact ⟨hbuiltin, hmem, a, ha, .refl⟩

variable (hd : (d.types.map (·.name)).Nodup) (he : (external.map (·.name)).Nodup)

include hd he

lemma nodup_types_of_ofDocument : (s.types.map (·.name)).Nodup := by
  rw [(Schema.ofDocument_eq_ok_some_iff.1 hs).2.2.2]
  exact Schema.nodup_pool (Schema.nodup_types_normal hd) he

/-- What was rendered is a part of the first pool that is closed under steps. -/
lemma isClosedPart_renderedDocument : Schema.IsClosedPart s.types (renderedDocument d s).types := by
  have hperm := types_renderedDocument_perm hs
  have hneeded := areNeeded_types_renditionOf d.normal s
  constructor
  case nodup => exact nodup_types_of_ofDocument hs hd he
  case nodup_part =>
    rw [(hperm.map _).nodup_iff]
    exact hneeded.nodup
  case subset =>
    intro t ht
    exact Schema.mem_of_last? (hneeded.last t (hperm.mem_iff.1 ht))
  case closed =>
    intro n hn m hstep hbuiltin hm
    rw [(hperm.map _).mem_iff, hneeded.mem_iff] at hn ⊢
    exact ⟨hbuiltin, hm, hn.2.2.next hstep⟩

/-- A root type of the first schema is that of the second. -/
lemma rootType_renderedDocument_some {operation operation' : RootOperation}
    {declared : Option String} {t : TypeDefinition} (hname : t.name ∈ s.rootNames)
    (hroot : Schema.rootType (Schema.pool external d.normal) operation declared = .ok (some t))
    (hbuiltin : t.name ∉ builtinScalars) :
    Schema.rootType (renderedDocument d s).types operation' (some t.name) = .ok (some t) := by
  have hpart := isClosedPart_renderedDocument hs hd he
  obtain ⟨hfind, hobject⟩ := Schema.rootType_eq_ok_some hroot
  rw [← (Schema.ofDocument_eq_ok_some_iff.1 hs).2.2.2] at hfind
  have hmem := List.mem_of_find?_eq_some hfind
  apply Schema.rootType_some_of_mem hpart.nodup_part _ hobject
  apply hpart.mem_of_name_mem hmem
  exact mem_names_renderedDocument_of_start hs (List.mem_append_left _ hname) hbuiltin
    (List.mem_map_of_mem hmem)

/-- If an operation has no root type in the first schema, the second document, which declares none,
gets none by convention either. -/
lemma rootType_renderedDocument_none {operation : RootOperation} {declared : Option String}
    (hroot : Schema.rootType (Schema.pool external d.normal) operation declared = .ok none) :
    Schema.rootType (renderedDocument d s).types operation none = .ok none := by
  have hpart := isClosedPart_renderedDocument hs hd he
  rw [← (Schema.ofDocument_eq_ok_some_iff.1 hs).2.2.2, Schema.rootType_eq_ok_none_iff] at hroot
  rw [Schema.rootType_eq_ok_none_iff]
  refine ⟨rfl, fun t ht => hroot.2 t ?_⟩
  rw [Schema.find?_eq_some_iff_of_nodup hpart.nodup_part] at ht
  rw [Schema.find?_eq_some_iff_of_nodup hpart.nodup]
  exact ⟨hpart.subset t ht.1, ht.2⟩

/-- The second document resolves into the second schema. -/
lemma ofDocument_renderedDocument (hroots : ∀ n ∈ s.rootNames, n ∉ builtinScalars) :
    Schema.ofDocument [] (renderedDocument d s) = .ok (some (renderedSchema d s)) := by
  obtain ⟨hquery, hmutation, -, -⟩ := Schema.ofDocument_eq_ok_some_iff.1 hs
  have hdeclared (operation : RootOperation) :
      Schema.declaredRoot (renderedDocument d s) operation =
        (d.normal.renditionOf s).schema.root? operation := by
    rw [Schema.declaredRoot, schema?_renderedDocument, Option.bind_some]
  -- the second document declares the roots that the first one may have had by convention
  rw [Schema.ofDocument_eq_ok_some_iff, Schema.pool_nil, hdeclared, hdeclared, hdeclared,
    renditionOf_eq]
  refine ⟨?_, ?_, rfl, rfl⟩
  · have hname : s.query.name ∈ s.rootNames := List.mem_cons_self
    exact rootType_renderedDocument_some hs hd he hname hquery (hroots _ hname)
  · cases hm : s.mutation with
    | none =>
      rw [hm] at hmutation
      simp only [renderedSchema, hm]
      exact rootType_renderedDocument_none hs hd he hmutation
    | some t =>
      have hname : t.name ∈ s.rootNames := by simp [Schema.rootNames, hm]
      rw [hm] at hmutation
      simp only [renderedSchema, hm]
      exact rootType_renderedDocument_some hs hd he hname hmutation (hroots _ hname)

/-! ### The second rendering -/

/-- The roots reach the same types in both schemas. -/
lemma rootedTypes_renderedSchema : (renderedSchema d s).rootedTypes = s.rootedTypes := by
  have hpart := isClosedPart_renderedDocument hs hd he
  symm
  apply hpart.closure_eq
  intro a ha hbuiltin hmem
  exact mem_names_renderedDocument_of_start hs (List.mem_append_left _ ha) hbuiltin hmem

variable (hasks : ∀ t ∈ d.objects, t.requestedNames ≠ [] →
  t.normal ∈ (d.normal.renditionOf s).types)

include hasks

omit hd he in
/-- The types that ask for others have been rendered, so that they ask again. The second document
can ask for more than the first, as it has object types that were external. -/
lemma requestedNames_subset_renderedDocument :
    d.normal.requestedNames ⊆ (renderedDocument d s).requestedNames := by
  intro name hname
  rw [d.normal_requestedNames_perm.mem_iff, Document.requestedNames, List.mem_flatMap] at hname
  obtain ⟨t, ht, hname⟩ := hname
  have hrendered := hasks t ht (List.ne_nil_of_mem hname)
  rw [← (types_renderedDocument_perm hs).mem_iff] at hrendered
  refine List.mem_flatMap.2 ⟨t.normal, List.mem_filter.2 ⟨hrendered, ?_⟩, ?_⟩
  · rw [TypeDefinition.normal_isObject]
    exact (List.mem_filter.1 ht).2
  · rwa [TypeDefinition.normal_requestedNames]

/-- A type that the first document asks for is reached by what the second one asks for. -/
lemma mem_requestedTypes_renderedSchema {t : TypeDefinition}
    (ht : t ∈ s.requestedTypes d.normal.requestedNames) :
    t ∈ (renderedSchema d s).requestedTypes (renderedDocument d s).requestedNames := by
  have hpart := isClosedPart_renderedDocument hs hd he
  obtain ⟨hbuiltin, hlast, a, ha, hpath⟩ := Schema.mem_closure_iff.1 ht
  obtain ⟨u, hu, rfl⟩ := List.mem_map.1 ha
  obtain ⟨hu, hasked⟩ := List.mem_filter.1 hu
  have hstart : u.name ∉ builtinScalars → u.name ∈ s.types.map (·.name) →
      u.name ∈ (renderedDocument d s).types.map (·.name) :=
    mem_names_renderedDocument_of_start hs (List.mem_append_right _ ha)
  -- the name the path begins with is none of a built-in scalar type, as these lead nowhere
  have hname : u.name ∈ (renderedDocument d s).types.map (·.name) := by
    rcases Relation.ReflTransGen.cases_head hpath with heq | ⟨b, hstep, -⟩
    · exact hstart (heq ▸ hbuiltin) (List.mem_map_of_mem hu)
    · exact hstart hstep.custom (List.mem_map_of_mem hu)
  obtain ⟨hpath, hmem⟩ := hpart.reflTransGen_part hstart hpath hbuiltin
    (List.mem_map_of_mem (Schema.mem_of_last? hlast))
  refine Schema.mem_closure_iff.2 ⟨hbuiltin, ?_, u.name, List.mem_map_of_mem ?_, hpath⟩
  · apply (Schema.last?_eq_some_iff_of_nodup hpart.nodup_part).2
    exact ⟨hpart.mem_of_name_mem (Schema.mem_of_last? hlast) hmem, rfl⟩
  · refine List.mem_filter.2 ⟨hpart.mem_of_name_mem hu hname, ?_⟩
    rw [List.contains_iff_mem] at hasked ⊢
    exact requestedNames_subset_renderedDocument hs hasks hasked

/-- Beside the types that the roots reach, the same types are asked for in both schemas. -/
lemma filter_requestedTypes_renderedSchema :
    ((renderedSchema d s).requestedTypes (renderedDocument d s).requestedNames).filter
        (fun t => !s.rootedTypes.any (·.name == t.name)) =
      (s.requestedTypes d.normal.requestedNames).filter
        (fun t => !s.rootedTypes.any (·.name == t.name)) := by
  apply eq_of_pairwise_precedes
  · exact Schema.pairwise_closure.filter _
  · exact Schema.pairwise_closure.filter _
  · exact Schema.nodup_closure.sublist (List.filter_sublist.map _)
  · exact Schema.nodup_closure.sublist (List.filter_sublist.map _)
  · intro t
    rw [List.mem_filter, List.mem_filter, and_congr_left_iff]
    intro hnew
    constructor
    · -- all types of the second pool were reached from the roots or asked for in the first one
      intro ht
      have hmem := Schema.mem_of_last? (Schema.mem_closure_iff.1 ht).2.1
      rw [show (renderedSchema d s).types = (renderedDocument d s).types from rfl,
        (types_renderedDocument_perm hs).mem_iff, mem_types_renditionOf_iff_or] at hmem
      rcases hmem with hrooted | hrequested
      · simp only [Bool.not_eq_true', List.any_eq_false, beq_iff_eq] at hnew
        exact absurd rfl (hnew t hrooted)
      · exact hrequested
    · exact mem_requestedTypes_renderedSchema hs hd he hasks

/-- What was rendered is rendered once more. -/
lemma renditionOf_renderedDocument :
    (renderedDocument d s).renditionOf (renderedSchema d s) = d.normal.renditionOf s := by
  have hdirectiveDefinitions :
      (renderedDocument d s).directiveDefinitions = d.normal.directiveDefinitions := by
    rw [renderedDocument, Document.normal_directiveDefinitions,
      Rendition.directiveDefinitions_asDocument, renditionOf_eq]
  rw [renditionOf_eq, rootedTypes_renderedSchema hs hd he,
    filter_requestedTypes_renderedSchema hs hd he hasks, hdirectiveDefinitions,
    schema?_renderedDocument, renditionOf_eq]
  rfl

end

/-- What is rendered of a document stands for itself: the document that declares just that is
rendered, without external types, as the same text. -/
theorem Document.canonicalSdl_asDocument {r : Rendition} {c : RenderSettings} {text : String}
    (htext : d.canonicalSdl external c = .ok text) (hr : d.rendition external = .ok r)
    (hq : r.query.isSome = true) (hd : (d.types.map (·.name)).Nodup)
    (he : (external.map (·.name)).Nodup)
    (hroots : ∀ n, r.query = some n ∨ r.mutation = some n → n ∉ builtinScalars)
    (hasks : ∀ t ∈ d.objects, t.requestedNames ≠ [] → t.normal ∈ r.types) :
    r.asDocument.canonicalSdl [] c = .ok text := by
  obtain ⟨s, hs, rfl⟩ := exists_schema_of_rendition hr hq
  have hrootNames : ∀ n ∈ s.rootNames, n ∉ builtinScalars := by
    intro n hn
    apply hroots
    rw [renditionOf_eq]
    simpa [Schema.rootNames, eq_comm] using hn
  have hr' : (d.normal.renditionOf s).asDocument.rendition [] = .ok (d.normal.renditionOf s) := by
    rw [rendition_eq_renditionOf (Rendition.hasTypeSystem_asDocument _)
      (ofDocument_renderedDocument hs hd he hrootNames)]
    exact congrArg Except.ok (renditionOf_renderedDocument hs hd he hasks)
  rw [canonicalSdl, hr] at htext
  rw [canonicalSdl, hr']
  exact htext

/-- The schema of both types. -/
def Schema.asking : Schema where
  query := .askingQuery
  mutation := none
  subscription := none
  types := [.askingQuery, .extra]

theorem Document.canonicalSdl_asDocument_askingQuery :
    ∃ r, Document.rendition [.extra] ⟨[.type .askingQuery]⟩ = .ok r ∧
      "Extra" ∈ r.types.map (·.name) ∧ r.asDocument.canonicalSdl [] {} = .ok (r.text {}) := by
  have hs : Schema.ofDocument [.extra] (Document.normal ⟨[.type .askingQuery]⟩) =
      .ok (some .asking) := by
    rw [normal_askingQuery]
    rfl
  have hr : Document.rendition [.extra] ⟨[.type .askingQuery]⟩ =
      .ok ((Document.normal ⟨[.type .askingQuery]⟩).renditionOf .asking) :=
    rendition_eq_renditionOf rfl hs
  refine ⟨_, hr, ?_, canonicalSdl_asDocument (by rw [canonicalSdl, hr]; rfl) hr rfl ?_ ?_ ?_ ?_⟩
  · have hstart : "Extra" ∈ Schema.asking.startNames
        (Document.normal ⟨[.type .askingQuery]⟩).requestedNames := by
      rw [normal_askingQuery]
      decide
    rw [(areNeeded_types_renditionOf _ _).mem_iff]
    exact ⟨by decide, by decide, "Extra", hstart, .refl⟩
  · simp [types, Definition.type?]
  · simp
  · rintro n (hn | hn)
    · obtain rfl : "Query" = n := Option.some.inj hn
      decide
    · contradiction
  · intro t ht _
    obtain ⟨rfl, -⟩ : t = .askingQuery ∧ t.isObject = true := by
      simpa [objects, types, Definition.type?] using ht
    rw [TypeDefinition.normal_askingQuery, mem_types_renditionOf_iff]
    exact ⟨by decide, rfl, "Query", List.mem_cons_self, .refl⟩

end CanonicalSdl

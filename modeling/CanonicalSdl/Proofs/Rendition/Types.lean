import CanonicalSdl.Canonical
import CanonicalSdl.Proofs.Document.NormalForm
import CanonicalSdl.Proofs.Schema.Closure
import CanonicalSdl.Proofs.Schema.Resolution

/-!
# The types that are rendered

What is rendered of a document are the types that can be reached from its roots and from the types
it asks for, each once, and nothing else. They refer to each other, to built-in scalar types and to
types that nobody knows, but to no type that has been left out.
-/

namespace CanonicalSdl

open Schema (ReachedFrom closure last? mem_closure_iff nodup_closure)

variable {external : List TypeDefinition} {d : Document} {s : Schema} {t u : TypeDefinition}
  {types added : List TypeDefinition} {n m : String}

/-! ### The first types -/

/-- The types that are the first ones with their names. -/
def firstsByName : List TypeDefinition → List TypeDefinition
  | [] => []
  | t :: types => t :: (firstsByName types).filter (·.name ≠ t.name)

lemma firstsByName_of_nodup (h : (types.map (·.name)).Nodup) : firstsByName types = types := by
  induction types with
  | nil => rfl
  | cons t types ih =>
    rw [List.map_cons, List.nodup_cons] at h
    rw [firstsByName, ih h.2, List.filter_eq_self.2]
    intro u hu
    have hne : u.name ≠ t.name := fun heq => h.1 (heq ▸ List.mem_map_of_mem hu)
    simpa using hne

/-! ### Adding types -/

/-- Of the types those are added that are the first with their names, unless a name is taken. -/
lemma addNew_eq_append (types added : List TypeDefinition) :
    addNew types added =
      types ++ (firstsByName added).filter fun t => !types.any (·.name == t.name) := by
  induction added generalizing types with
  | nil => simp [addNew, firstsByName]
  | cons t added ih =>
    rw [addNew, firstsByName]
    split
    next htaken =>
      -- later types of that name are left out on both sides, as the name is taken already
      rw [ih, List.filter_cons_of_neg (by simpa using htaken), List.filter_filter]
      congr 2
      funext u
      grind
    next hnew =>
      rw [ih, List.filter_cons_of_pos (by simpa using hnew), List.filter_filter,
        List.append_assoc, List.singleton_append]
      congr 3
      funext u
      grind

lemma sortTypes_closure (types : List TypeDefinition) (names : List String) :
    sortTypes (closure types names) = closure types names :=
  sortByBytes_sortByBytes _ _

lemma nodup_rootedTypes (s : Schema) : (s.rootedTypes.map (·.name)).Nodup :=
  nodup_closure

lemma nodup_requestedTypes (s : Schema) (quotedNames : List String) :
    ((s.requestedTypes quotedNames).map (·.name)).Nodup :=
  nodup_closure

lemma types_ofSchema (s : Schema) : (Rendition.ofSchema s).types = s.rootedTypes := by
  have hall : s.rootedTypes.filter (fun t => !([] : List TypeDefinition).any (·.name == t.name)) =
      s.rootedTypes := List.filter_eq_self.2 fun _ _ => rfl
  rw [Rendition.ofSchema, Rendition.addTypes, addNew_eq_append,
    firstsByName_of_nodup (nodup_rootedTypes s), List.nil_append, hall]
  exact sortTypes_closure _ _

/-- The types of a rendition are those the roots reach, and then the others that are asked for, in
canonical order. -/
lemma renditionOf_eq (d : Document) (s : Schema) :
    d.renditionOf s = {
      query := some s.query.name
      mutation := s.mutation.map (·.name)
      directives := (d.schema?.map (·.directives)).getD []
      directiveDefinitions := d.directiveDefinitions
      types := sortTypes (s.rootedTypes ++
        (s.requestedTypes d.requestedNames).filter
          fun t => !s.rootedTypes.any (·.name == t.name)) } := by
  have htypes : addNew (Rendition.ofSchema s).types (s.requestedTypes d.requestedNames) =
      s.rootedTypes ++ (s.requestedTypes d.requestedNames).filter
        fun t => !s.rootedTypes.any (·.name == t.name) := by
    rw [types_ofSchema, addNew_eq_append, firstsByName_of_nodup (nodup_requestedTypes s _)]
  rw [← htypes]
  rfl

/-! ### Documents that agree -/

namespace Document

/-- The documents have the same types and the same schema definition. -/
structure Agrees (d d' : Document) : Prop where
  types : d'.types = d.types
  schema? : d'.schema? = d.schema?

namespace Agrees

variable {d' : Document} (h : d.Agrees d')

include h

lemma requestedNames_eq : d'.requestedNames = d.requestedNames := by
  rw [requestedNames, requestedNames, objects, objects, h.types]

lemma ofDocument_eq : Schema.ofDocument external d' = Schema.ofDocument external d := by
  simp only [Schema.ofDocument, Schema.pool, h.types, h.schema?]

/-- What is rendered of them differs at most in the directive definitions. -/
lemma renditionOf_eq (s : Schema) : d'.renditionOf s =
    { d.renditionOf s with directiveDefinitions := d'.directiveDefinitions } := by
  rw [CanonicalSdl.renditionOf_eq, CanonicalSdl.renditionOf_eq, h.requestedNames_eq, h.schema?]

end Agrees

end Document

/-! ### The members of a rendition -/

namespace Schema

/-- The names of the types of the pool that are asked for by their quoted names. -/
def requestedStarts (s : Schema) (quotedNames : List String) : List String :=
  (s.types.filter fun t => quotedNames.contains (Text.quoted t.name)).map (·.name)

/-- The names from which all that is rendered is reached. -/
def startNames (s : Schema) (quotedNames : List String) : List String :=
  s.rootNames ++ s.requestedStarts quotedNames

end Schema

lemma nodup_types_renditionOf (d : Document) (s : Schema) :
    ((d.renditionOf s).types.map (·.name)).Nodup := by
  rw [renditionOf_eq]
  exact ((sortByBytes_perm _ _).map _).nodup_iff.2
    (Schema.nodup_append_filter (nodup_rootedTypes s) (nodup_requestedTypes s _))

/-- A type that is asked for is left out only if the roots reach it as well. -/
lemma mem_types_renditionOf_iff_or :
    t ∈ (d.renditionOf s).types ↔ t ∈ s.rootedTypes ∨ t ∈ s.requestedTypes d.requestedNames := by
  rw [renditionOf_eq, sortTypes, mem_sortByBytes, List.mem_append, List.mem_filter]
  constructor
  · rintro (ht | ⟨ht, -⟩)
    · exact .inl ht
    · exact .inr ht
  · rintro (ht | ht)
    · exact .inl ht
    · by_cases htaken : s.rootedTypes.any (·.name == t.name) = true
      · -- both are the last type of that name
        obtain ⟨u, hu, hname⟩ := List.any_eq_true.1 htaken
        have hlast := (mem_closure_iff.1 hu).2.1
        rw [show u.name = t.name by simpa using hname, (mem_closure_iff.1 ht).2.1] at hlast
        exact .inl (Option.some.inj hlast ▸ hu)
      · exact .inr ⟨ht, by simpa using htaken⟩

theorem mem_types_renditionOf_iff :
    t ∈ (d.renditionOf s).types ↔ t.name ∉ builtinScalars ∧ last? s.types t.name = some t ∧
      ReachedFrom s.types (s.startNames d.requestedNames) t.name := by
  rw [mem_types_renditionOf_iff_or, Schema.rootedTypes, Schema.typesFrom, Schema.requestedTypes,
    Schema.typesFrom, mem_closure_iff, mem_closure_iff, Schema.startNames,
    Schema.reachedFrom_append, ← and_or_left, ← and_or_left]
  rfl

/-! ### What is rendered of a document -/

/-- The types are exactly the ones that are needed: each is the last of its name in the pool of a
schema, and they are those that can be reached from given names. -/
structure Schema.AreNeeded (s : Schema) (starts : List String) (types : List TypeDefinition) :
    Prop where
  /-- No name is rendered twice. -/
  nodup : (types.map (·.name)).Nodup
  /-- The names of the types are those that can be reached and stand for a type. -/
  mem_iff : ∀ n, n ∈ types.map (·.name) ↔
    n ∉ builtinScalars ∧ n ∈ s.types.map (·.name) ∧ ReachedFrom s.types starts n
  /-- Of types with one name the last is rendered. -/
  last : ∀ t ∈ types, last? s.types t.name = some t
  /-- What a type mentions is rendered, is a built-in scalar type, or is not in the pool. -/
  closed : ∀ t ∈ types, ∀ m, t.Mentions m →
    m ∈ types.map (·.name) ∨ m ∈ builtinScalars ∨ m ∉ s.types.map (·.name)

lemma areNeeded_types_renditionOf (d : Document) (s : Schema) :
    s.AreNeeded (s.startNames d.requestedNames) (d.renditionOf s).types := by
  have hmem : ∀ n, n ∈ (d.renditionOf s).types.map (·.name) ↔ n ∉ builtinScalars ∧
      n ∈ s.types.map (·.name) ∧ ReachedFrom s.types (s.startNames d.requestedNames) n := by
    intro n
    constructor
    · intro hn
      obtain ⟨t, ht, rfl⟩ := List.mem_map.1 hn
      obtain ⟨hbuiltin, hlast, hreached⟩ := mem_types_renditionOf_iff.1 ht
      exact ⟨hbuiltin, List.mem_map_of_mem (Schema.mem_of_last? hlast), hreached⟩
    · rintro ⟨hbuiltin, hn, hreached⟩
      obtain ⟨u, hu, rfl⟩ := List.mem_map.1 hn
      obtain ⟨t, hlast⟩ := Schema.exists_last? hu
      have hname := Schema.name_of_last? hlast
      rw [← hname] at hbuiltin hreached hlast ⊢
      exact List.mem_map_of_mem (mem_types_renditionOf_iff.2 ⟨hbuiltin, hlast, hreached⟩)
  constructor
  case nodup => exact nodup_types_renditionOf d s
  case mem_iff => exact hmem
  case last => exact fun t ht => (mem_types_renditionOf_iff.1 ht).2.1
  case closed =>
    -- what a reached type mentions is reached, so it can be missing only if it stands for no type
    intro t ht m hm
    obtain ⟨hbuiltin, hlast, hreached⟩ := mem_types_renditionOf_iff.1 ht
    by_cases hb : m ∈ builtinScalars
    · exact .inr (.inl hb)
    by_cases hp : m ∈ s.types.map (·.name)
    · exact .inl ((hmem m).2 ⟨hb, hp, hreached.next (.mention hbuiltin hlast hm)⟩)
    · exact .inr (.inr hp)

lemma rendition_eq_renditionOf (hd : d.hasTypeSystem = true)
    (hs : Schema.ofDocument external d.normal = .ok (some s)) :
    d.rendition external = .ok (d.normal.renditionOf s) := by
  rw [Document.rendition, if_pos hd, hs]
  rfl

lemma canonicalSdl_eq_ok {r : Rendition} (hr : d.rendition external = .ok r) (c : RenderSettings) :
    d.canonicalSdl external c = .ok (r.text c) := by
  rw [Document.canonicalSdl, hr]
  rfl

/-- Of a document without a query root nothing is rendered. -/
lemma rendition_eq_ok_iff {r : Rendition} (hd : d.hasTypeSystem = true) :
    d.rendition external = .ok r ↔ ∃ schema, Schema.ofDocument external d.normal = .ok schema ∧
      r = schema.elim {} d.normal.renditionOf := by
  rw [Document.rendition, if_pos hd]
  cases Schema.ofDocument external d.normal with
  | error e => simp [bind, Except.bind]
  | ok schema => cases schema <;> simp [bind, Except.bind, pure, Except.pure, eq_comm]

/-- What is rendered of a document, if it has a query root. -/
lemma exists_schema_of_rendition {r : Rendition} (hr : d.rendition external = .ok r)
    (hq : r.query.isSome = true) :
    ∃ s, Schema.ofDocument external d.normal = .ok (some s) ∧ r = d.normal.renditionOf s := by
  by_cases hd : d.hasTypeSystem = true
  · obtain ⟨schema, hs, rfl⟩ := (rendition_eq_ok_iff hd).1 hr
    cases schema with
    | none => contradiction
    | some s => exact ⟨s, hs, rfl⟩
  · rw [Document.rendition, if_neg hd] at hr
    obtain rfl : ({} : Rendition) = r := Except.ok.inj hr
    contradiction

/-- A document with a type system and a query root is rendered with exactly the types of the pool
that its roots and the types it asks for need. -/
theorem Document.areNeeded_types_rendition (hd : d.hasTypeSystem = true)
    (hs : Schema.ofDocument external d.normal = .ok (some s)) :
    s.types = Schema.pool external d.normal ∧ ∃ r, d.rendition external = .ok r ∧
      s.AreNeeded (s.startNames d.normal.requestedNames) r.types :=
  ⟨(Schema.ofDocument_eq_ok_some_iff.1 hs).2.2.2, _, rendition_eq_renditionOf hd hs,
    areNeeded_types_renditionOf d.normal s⟩

/-- A query root that asks for a type of another source, and from which an interface type, a union
type and an input object type are reached. -/
def TypeDefinition.wovenRoot : TypeDefinition where
  name := "Root"
  directives := [{ name := "extends", arguments := [("types", .list [.string "Extra"])] }]
  body := .object [] [
    { name := "found", type := .named "Result" },
    { name := "node", arguments := [{ name := "among", type := .named "Filter" }],
      type := .named "Node" }]

/-- A mutation root. -/
def TypeDefinition.wovenChange : TypeDefinition where
  name := "Change"
  body := .object [] [{ name := "post", type := .named "Post" }]

/-- A document whose types refer to each other and to themselves. One name is that of two types,
another one is that of no type, and one type is reached from nowhere. -/
def Document.woven : Document where
  definitions := [
    .type { name := "Node", body := .interface [] [{ name := "id", type := .named "ID" }] },
    .type { name := "Result", body := .union ["Post", "User"] },
    .type { name := "Role", body := .enum [{ name := "ADMIN" }] },
    .schema { query := some "Root", mutation := some "Change" },
    .type {
      name := "Filter"
      body := .input [
        { name := "and", type := .list (.named "Filter") },
        { name := "role", type := .named "Role" }] },
    .type { name := "Alone", body := .object [] [{ name := "root", type := .named "Root" }] },
    .type .wovenChange,
    .type {
      name := "Post"
      body := .object [] [
        { name := "at", type := .named "DateTime" },
        { name := "lost", type := .named "Missing" }] },
    .type .wovenRoot,
    .type { name := "User", body := .object ["Node"] [{ name := "id", type := .named "ID" }] },
    .type {
      name := "User"
      body := .object ["Node"] [
        { name := "friends", type := .list (.named "User") },
        { name := "id", type := .named "ID" }] }]

/-- Types of another source: one that the document defines itself, one that it refers to, one that
it asks for, and one that nobody needs. -/
def Document.wovenElsewhere : List TypeDefinition := [
  { name := "User", body := .scalar }, { name := "DateTime", body := .scalar },
  { name := "Extra", body := .scalar }, { name := "Unasked", body := .scalar }]

/-- The schema of the document. -/
def Schema.woven : Schema where
  query := .wovenRoot
  mutation := some .wovenChange
  subscription := none
  types := Document.woven.types ++ Document.wovenElsewhere.tail

lemma Document.normal_woven : woven.normal = woven := by
  apply normal_eq_self
  · -- each list of fields is sorted already
    simp (disch := decide) [woven, Definition.normal, TypeDefinition.normal,
      TypeDefinition.wovenRoot, TypeDefinition.wovenChange, sortByBytes_of_pairwise]
  · decide

lemma Document.ofDocument_woven :
    Schema.ofDocument wovenElsewhere woven.normal = .ok (some .woven) := by
  rw [normal_woven]
  rfl

/-- The names of the types that are rendered. -/
def Document.wovenNames : List String :=
  ["Node", "Result", "Role", "DateTime", "Extra", "Filter", "Change", "Post", "Root", "User"]

lemma Document.reachedFrom_of_mem_wovenNames (hn : n ∈ wovenNames) :
    ReachedFrom Schema.woven.types (Schema.woven.startNames woven.requestedNames) n := by
  have hstart : ∀ a ∈ ["Root", "Change", "Extra"],
      ReachedFrom Schema.woven.types (Schema.woven.startNames woven.requestedNames) a :=
    fun a ha => ⟨a, by decide +revert, .refl⟩
  simp only [List.forall_mem_cons] at hstart
  obtain ⟨hroot, hchange, hextra, -⟩ := hstart
  have hresult := hroot.next (m := "Result") (Schema.follows_iff.2 (by decide))
  have hnode := hroot.next (m := "Node") (Schema.follows_iff.2 (by decide))
  have hfilter := hroot.next (m := "Filter") (Schema.follows_iff.2 (by decide))
  have hrole := hfilter.next (m := "Role") (Schema.follows_iff.2 (by decide))
  have hpost := hchange.next (m := "Post") (Schema.follows_iff.2 (by decide))
  have htime := hpost.next (m := "DateTime") (Schema.follows_iff.2 (by decide))
  -- the interface leads to the object type that implements it
  have huser := hnode.next (m := "User") (Schema.follows_iff.2 (by decide))
  revert n
  simp only [wovenNames, List.forall_mem_cons]
  exact ⟨hnode, hresult, hrole, htime, hextra, hfilter, hchange, hpost, hroot, huser, by simp⟩

/-- No other names of types are reached. -/
lemma Document.mem_wovenNames_iff : n ∈ wovenNames ↔ n ∉ builtinScalars ∧
    n ∈ Schema.woven.types.map (·.name) ∧
      ReachedFrom Schema.woven.types (Schema.woven.startNames woven.requestedNames) n := by
  constructor
  · intro hn
    exact ⟨by decide +revert, by decide +revert, reachedFrom_of_mem_wovenNames hn⟩
  · rintro ⟨hbuiltin, hmem, hreached⟩
    -- no step leads out of these names and those that stand for no type
    have hclosed : ∀ n ∈ "Missing" :: builtinScalars ++ wovenNames,
        ∀ t ∈ last? Schema.woven.types n,
          ∀ m ∈ t.references ++ Schema.implementations Schema.woven.types n,
            m ∈ "Missing" :: builtinScalars ++ wovenNames := by decide
    have hname : n ∈ "Missing" :: builtinScalars ++ wovenNames := by
      refine hreached.induct (by decide) ?_
      intro n m hn hstep
      obtain ⟨-, t, hlast, hm⟩ := Schema.follows_iff.1 hstep
      exact hclosed n hn t hlast m (List.mem_append.2 hm)
    rw [List.mem_append, List.mem_cons, or_assoc] at hname
    rcases hname with rfl | hname | hname
    · contradiction
    · contradiction
    · exact hname

theorem Document.areNeeded_types_rendition_woven :
    woven.hasTypeSystem = true ∧
      Schema.ofDocument wovenElsewhere woven.normal = .ok (some .woven) ∧
      ∃ r, woven.rendition wovenElsewhere = .ok r ∧
        Schema.woven.AreNeeded (Schema.woven.startNames woven.normal.requestedNames) r.types ∧
        ∀ n, n ∈ r.types.map (·.name) ↔ n ∈ wovenNames := by
  obtain ⟨-, r, hr, hneeded⟩ := areNeeded_types_rendition (d := woven) rfl ofDocument_woven
  refine ⟨rfl, ofDocument_woven, r, hr, hneeded, ?_⟩
  intro n
  rw [hneeded.mem_iff, normal_woven, mem_wovenNames_iff]

/-- An object type with the conventional name of the query root. -/
def TypeDefinition.soleQuery : TypeDefinition where
  name := "Query"
  body := .object [] [{ name := "a", type := .named "Int" }]

/-- The schema whose one type is its query root. -/
def Schema.soleQuery : Schema where
  query := .soleQuery
  mutation := none
  subscription := none
  types := [.soleQuery]

lemma TypeDefinition.normal_soleQuery : soleQuery.normal = soleQuery := by
  simp [soleQuery, normal, sortByBytes]

/-- A document that has no type system is rendered as nothing, even if the external types give it a
query root. -/
theorem Document.not_areNeeded_types_rendition_empty :
    Schema.ofDocument [.soleQuery] (Document.normal {}) = .ok (some .soleQuery) ∧
      ∃ r, Document.rendition [.soleQuery] {} = .ok r ∧
        ¬ Schema.soleQuery.AreNeeded (Schema.soleQuery.startNames
          (Document.normal {}).requestedNames) r.types := by
  have hnormal : Document.normal {} = {} := by simp [Document.normal, sortByBytes]
  have hs : Schema.ofDocument [.soleQuery] (Document.normal {}) = .ok (some .soleQuery) := by
    rw [hnormal, Schema.ofDocument, Schema.pool, List.map_singleton,
      TypeDefinition.normal_soleQuery]
    rfl
  refine ⟨hs, {}, rfl, ?_⟩
  intro h
  have hreached : ReachedFrom Schema.soleQuery.types (Schema.soleQuery.startNames
      (Document.normal {}).requestedNames) "Query" :=
    ⟨"Query", List.mem_append_left _ (List.mem_singleton_self _), .refl⟩
  have hquery := (h.mem_iff "Query").2 ⟨by decide, by decide, hreached⟩
  simp at hquery

/-! ### A type that is asked for -/

/-- A query root that asks for a type of another source. -/
def TypeDefinition.askingQuery : TypeDefinition where
  name := "Query"
  directives := [{ name := "extends", arguments := [("types", .list [.string "Extra"])] }]
  body := .object [] [{ name := "a", type := .named "Int" }]

/-- The type that is asked for. -/
def TypeDefinition.extra : TypeDefinition where
  name := "Extra"
  body := .scalar

lemma TypeDefinition.normal_askingQuery : askingQuery.normal = askingQuery := by
  simp [askingQuery, normal, sortByBytes]

lemma Document.normal_askingQuery :
    Document.normal ⟨[.type .askingQuery]⟩ = ⟨[.type .askingQuery]⟩ := by
  simp [normal, Definition.normal, TypeDefinition.normal_askingQuery, sortByBytes]

end CanonicalSdl

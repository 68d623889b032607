import CanonicalSdl.Proofs.Rendition.Types
import CanonicalSdl.Proofs.Schema.Restriction

/-!
# The external types that show

Of the types from other sources only those have a say in what is rendered that are printed
themselves: the others can be left out, and nothing changes. So neither types that the document
defines itself nor types that nothing reaches can be told from the text.
-/

namespace CanonicalSdl

open Schema (ReachedFrom KeepsReached declaredRoot pool restrict rootType)

variable {external external' : List TypeDefinition} {d : Document} {s s' : Schema}
  {r : Rendition} {c : RenderSettings} {text n : String} {p : String → Bool}

namespace Document

/-- Whether one of the types of the document has the name. -/
def defines (d : Document) (n : String) : Bool :=
  d.types.any (·.name == n)

/-- Whether the name is that of a type in a rendition, or of a query root or a mutation root that
the document declares. -/
def prints (d : Document) (r : Rendition) (n : String) : Bool :=
  r.types.any (·.name == n) || declaredRoot d .query == some n || declaredRoot d .mutation == some n

/-- The external types that are printed in a rendition of the document, and not defined by it. -/
def printedExternal (d : Document) (r : Rendition) (external : List TypeDefinition) :
    List TypeDefinition :=
  external.filter fun t => !d.defines t.name && d.prints r t.name

lemma defines_iff : d.defines n = true ↔ n ∈ d.types.map (·.name) := by
  simp [defines]

lemma prints_iff :
    d.prints r n = true ↔ n ∈ r.types.map (·.name) ∨ declaredRoot d .query = some n ∨
      declaredRoot d .mutation = some n := by
  simp [prints, or_assoc]

@[simp] lemma defines_normal : d.normal.defines n = d.defines n := by
  rw [Bool.eq_iff_iff, defines_iff, defines_iff, (d.normal_types_perm.map _).mem_iff,
    Schema.map_name_normal]

@[simp] lemma prints_normal : d.normal.prints r n = d.prints r n := by
  simp only [prints, declaredRoot, normal_schema?]

@[simp] lemma printedExternal_normal :
    d.normal.printedExternal r external = d.printedExternal r external := by
  simp only [printedExternal, defines_normal, prints_normal]

/-- With the printed external types alone the pool has the types whose names the document defines or
prints. -/
lemma pool_printedExternal (d : Document) (r : Rendition) (external : List TypeDefinition) :
    pool (d.printedExternal r external) d =
      restrict (fun n => d.defines n || d.prints r n) (pool external d) := by
  have hown : d.types.filter (fun t => d.defines t.name || d.prints r t.name) = d.types := by
    rw [List.filter_eq_self]
    intro t ht
    rw [defines_iff.2 (List.mem_map_of_mem ht), Bool.true_or]
  have hpool (external : List TypeDefinition) : pool external d =
      d.types ++ (external.map TypeDefinition.normal).filter (fun t => !d.defines t.name) := rfl
  rw [hpool, hpool, restrict, List.filter_append, hown, printedExternal, List.filter_map,
    List.filter_map, List.filter_map, List.filter_filter, List.filter_filter]
  congr 2
  apply List.filter_congr
  intro t _
  cases hdefines : d.defines t.name <;> simp [hdefines]

end Document

/-! ### Schemas of fewer types -/

section

variable (hpool : pool external' d = restrict p (pool external d))

include hpool

lemma ofDocument_restrict_none (hp : ∀ n ∈ declaredRoot d .mutation, p n = true)
    (hs : Schema.ofDocument external d = .ok none) :
    Schema.ofDocument external' d = .ok none := by
  rw [Schema.ofDocument_eq_ok_none_iff] at hs ⊢
  obtain ⟨hquery, mutation, hmutation⟩ := hs
  rw [hpool]
  exact ⟨Schema.rootType_restrict hquery (by simp), Schema.exists_rootType_restrict hmutation hp⟩

/-- The schema keeps its roots. -/
lemma exists_ofDocument_restrict_some (hp : ∀ n ∈ s.rootNames, p n = true)
    (hs : Schema.ofDocument external d = .ok (some s)) :
    ∃ s', Schema.ofDocument external' d = .ok (some s') ∧ s'.query = s.query ∧
      s'.mutation = s.mutation ∧ s'.types = restrict p s.types := by
  obtain ⟨hquery, hmutation, -, htypes⟩ := Schema.ofDocument_eq_ok_some_iff.1 hs
  have hquery' : rootType (pool external' d) .query (declaredRoot d .query) =
      .ok (some s.query) := by
    rw [hpool]
    refine Schema.rootType_restrict hquery ?_
    rintro t ⟨⟩
    exact hp _ List.mem_cons_self
  have hmutation' : rootType (pool external' d) .mutation (declaredRoot d .mutation) =
      .ok s.mutation := by
    rw [hpool]
    refine Schema.rootType_restrict hmutation fun t ht => hp _ ?_
    rw [Option.mem_def] at ht
    simp [Schema.rootNames, ht]
  refine ⟨⟨s.query, s.mutation, _, pool external' d⟩,
    Schema.ofDocument_eq_ok_some_iff.2 ⟨hquery', hmutation', rfl, rfl⟩, rfl, rfl, ?_⟩
  rw [htypes]
  exact hpool

end

/-- What is rendered stays the same if the types of a schema are left out that are not rendered. -/
lemma renditionOf_restrict (hquery : s'.query = s.query) (hmutation : s'.mutation = s.mutation)
    (htypes : s'.types = restrict p s.types)
    (hp : ∀ n ∈ (d.renditionOf s).types.map (·.name), p n = true) :
    d.renditionOf s' = d.renditionOf s := by
  have hkeeps : KeepsReached s.types (s.startNames d.requestedNames) p := by
    intro n hreached hbuiltin hmem
    exact hp n (((areNeeded_types_renditionOf d s).mem_iff n).2 ⟨hbuiltin, hmem, hreached⟩)
  have hrooted : s'.rootedTypes = s.rootedTypes := by
    have hnames : s'.rootNames = s.rootNames := by
      rw [Schema.rootNames, Schema.rootNames, hquery, hmutation]
    rw [Schema.rootedTypes, Schema.typesFrom, hnames, htypes]
    exact (hkeeps.mono (List.subset_append_left _ _)).closure_restrict (List.Subset.refl _)
      fun a ha _ _ => ha
  have hrequested : s'.requestedTypes d.requestedNames = s.requestedTypes d.requestedNames := by
    have hkeeps := hkeeps.mono (List.subset_append_right _ _)
    rw [Schema.requestedTypes, Schema.typesFrom, htypes]
    apply hkeeps.closure_restrict
    · exact List.map_subset _ (List.filter_sublist.filter _).subset
    · -- a type that is asked for is reached from itself, and so kept
      intro a ha hbuiltin hmem
      have hkept : p a = true := hkeeps a ⟨a, ha, .refl⟩ hbuiltin hmem
      obtain ⟨t, ht, rfl⟩ := List.mem_map.1 ha
      rw [List.mem_filter] at ht
      exact List.mem_map_of_mem (List.mem_filter.2 ⟨Schema.mem_restrict.2 ⟨ht.1, hkept⟩, ht.2⟩)
  rw [renditionOf_eq, renditionOf_eq, hrooted, hrequested, hquery, hmutation]

/-! ### The external types that are left -/

/-- The query root and the mutation root are rendered if their names are not declared: the
conventional names are not those of built-in scalar types. -/
lemma prints_rootType {operation : RootOperation} {root : TypeDefinition}
    (hroot : rootType (pool external d) operation (declaredRoot d operation) = .ok (some root))
    (hoperation : operation ≠ .subscription) (hname : root.name ∈ s.rootNames)
    (htypes : s.types = pool external d) : d.prints (d.renditionOf s) root.name = true := by
  rw [Document.prints_iff]
  have hrootName := Schema.name_of_rootType hroot
  cases hdeclared : declaredRoot d operation with
  | some n =>
    obtain rfl : root.name = n := by rw [hrootName, hdeclared, Option.getD_some]
    cases operation with
    | query => exact .inr (.inl hdeclared)
    | mutation => exact .inr (.inr hdeclared)
    | subscription => contradiction
  | none =>
    -- the root has the conventional name, and what is reached from it is rendered
    rw [hdeclared, Option.getD_none] at hrootName
    have hbuiltin : root.name ∉ builtinScalars := by
      rw [hrootName]
      cases operation <;> decide
    have hmem : root.name ∈ s.types.map (·.name) := by
      rw [htypes]
      exact List.mem_map_of_mem (List.mem_of_find?_eq_some (Schema.rootType_eq_ok_some hroot).1)
    have hreached : ReachedFrom s.types (s.startNames d.requestedNames) root.name :=
      ⟨root.name, List.mem_append_left _ hname, .refl⟩
    exact .inl (((areNeeded_types_renditionOf d s).mem_iff _).2 ⟨hbuiltin, hmem, hreached⟩)

lemma prints_of_mem_rootNames (hs : Schema.ofDocument external d = .ok (some s))
    (hn : n ∈ s.rootNames) : d.prints (d.renditionOf s) n = true := by
  obtain ⟨hquery, hmutation, -, htypes⟩ := Schema.ofDocument_eq_ok_some_iff.1 hs
  rcases List.mem_cons.1 hn with rfl | hn'
  · exact prints_rootType hquery (by decide) hn htypes
  · obtain ⟨root, hroot, rfl⟩ : ∃ root, s.mutation = some root ∧ root.name = n := by
      simpa using hn'
    exact prints_rootType (hroot ▸ hmutation) (by decide) hn htypes

/-- Only the external types that are printed have a say in what is rendered. -/
lemma rendition_printedExternal (hr : d.rendition external = .ok r) :
    d.rendition (d.printedExternal r external) = .ok r := by
  by_cases hd : d.hasTypeSystem = true
  · rw [rendition_eq_ok_iff hd] at hr ⊢
    obtain ⟨schema, hs, rfl⟩ := hr
    have hpool := d.normal.pool_printedExternal (schema.elim {} d.normal.renditionOf) external
    rw [Document.printedExternal_normal] at hpool
    cases schema with
    | none =>
      -- a declared mutation root must be kept even so, or it would be an error
      refine ⟨none, ofDocument_restrict_none hpool ?_ hs, rfl⟩
      intro n hn
      rw [Bool.or_eq_true, Document.prints_iff]
      exact .inr (.inr (.inr hn))
    | some s =>
      have hroots : ∀ n ∈ s.rootNames,
          (d.normal.defines n || d.normal.prints (d.normal.renditionOf s) n) = true := by
        intro n hn
        rw [prints_of_mem_rootNames hs hn, Bool.or_true]
      have hrendered : ∀ n ∈ (d.normal.renditionOf s).types.map (·.name),
          (d.normal.defines n || d.normal.prints (d.normal.renditionOf s) n) = true := by
        intro n hn
        rw [Document.prints_iff.2 (.inl hn), Bool.or_true]
      obtain ⟨s', hs', hquery, hmutation, htypes⟩ :=
        exists_ofDocument_restrict_some hpool hroots hs
      exact ⟨some s', hs', (renditionOf_restrict hquery hmutation htypes hrendered).symm⟩
  · rw [Document.rendition, if_neg hd] at hr ⊢
    exact hr

/-- The canonical text of a document stays the same without the external types that it defines
itself and those that are neither rendered nor declared as roots. -/
theorem Document.canonicalSdl_printedExternal (h : d.canonicalSdl external c = .ok text) :
    ∃ r, d.rendition external = .ok r ∧ d.rendition (d.printedExternal r external) = .ok r ∧
      d.canonicalSdl (d.printedExternal r external) c = .ok text := by
  cases hr : d.rendition external with
  | error e =>
    rw [canonicalSdl, hr] at h
    contradiction
  | ok r =>
    rw [canonicalSdl_eq_ok hr] at h
    have hprinted := rendition_printedExternal hr
    exact ⟨r, rfl, hprinted, (canonicalSdl_eq_ok hprinted c).trans h⟩

/-- A type that nobody asks for. -/
def TypeDefinition.unasked : TypeDefinition where
  name := "Other"
  body := .scalar

/-- A document with a root that asks for a type. -/
def Document.asking : Document where
  definitions := [.type .askingQuery]

/-- The types of another source: one that the document defines itself, one that nobody asks for, and
the one that is asked for. -/
def Document.elsewhere : List TypeDefinition :=
  [.soleQuery, .unasked, .extra]

/-- The schema of the document. -/
def Schema.askingElsewhere : Schema where
  query := .askingQuery
  mutation := none
  subscription := none
  types := [.askingQuery, .unasked, .extra]

lemma Document.rendition_asking :
    asking.rendition elsewhere = .ok (asking.renditionOf .askingElsewhere) := by
  have hnormal : asking.normal = asking := normal_askingQuery
  have hs : Schema.ofDocument elsewhere asking.normal = .ok (some .askingElsewhere) := by
    rw [hnormal, Schema.ofDocument, Schema.pool, elsewhere, List.map_cons,
      TypeDefinition.normal_soleQuery]
    rfl
  rw [rendition_eq_renditionOf rfl hs, hnormal]

lemma Document.prints_asking :
    asking.prints (asking.renditionOf .askingElsewhere) n = true ↔ n = "Query" ∨ n = "Extra" := by
  have hrooted : Schema.askingElsewhere.rootedTypes = [.askingQuery] :=
    Schema.closure_singleton (by decide) rfl (by decide)
  have hrequested : Schema.askingElsewhere.requestedTypes asking.requestedNames = [.extra] :=
    Schema.closure_singleton (by decide) rfl (by decide)
  have hdeclared (operation : RootOperation) : declaredRoot asking operation = none := rfl
  simp only [prints_iff, hdeclared, List.mem_map, mem_types_renditionOf_iff_or, hrooted, hrequested,
    reduceCtorEq, or_false]
  simp [or_and_right, exists_or, TypeDefinition.askingQuery, TypeDefinition.extra, eq_comm]

theorem Document.canonicalSdl_printedExternal_asking :
    ∃ r, asking.rendition elsewhere = .ok r ∧ asking.printedExternal r elsewhere = [.extra] ∧
      asking.canonicalSdl [.extra] {} = .ok (r.text {}) := by
  obtain ⟨r, hr, -, htext⟩ :=
    canonicalSdl_printedExternal (canonicalSdl_eq_ok rendition_asking {})
  obtain rfl := Except.ok.inj (rendition_asking.symm.trans hr)
  have hprinted :
      asking.printedExternal (asking.renditionOf .askingElsewhere) elsewhere = [.extra] := by
    have hquery : asking.defines "Query" = true := rfl
    have hextra : asking.defines "Extra" = false := rfl
    simp [printedExternal, elsewhere, TypeDefinition.soleQuery, TypeDefinition.unasked,
      TypeDefinition.extra, prints_asking, hquery, hextra]
  rw [hprinted] at htext
  exact ⟨_, hr, hprinted, htext⟩

end CanonicalSdl

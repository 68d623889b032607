import CanonicalSdl.Proofs.Document.Normal
import CanonicalSdl.Proofs.Schema.Reachability

/-!
# Resolving documents

What a schema is made of, and what it is where all types of the pool have distinct names: then the
first type of a name is the last one too, and the order of the pool is of no account.
-/

namespace CanonicalSdl.Schema

variable {external types types' : List TypeDefinition} {d : Document} {s : Schema}
  {t : TypeDefinition} {n : String} {operation : RootOperation} {declared : Option String}

/-! ### Pools of distinct names -/

lemma find?_eq_some_iff_of_nodup (h : (types.map (·.name)).Nodup) :
    types.find? (·.name == n) = some t ↔ t ∈ types ∧ t.name = n := by
  constructor
  · intro ht
    exact ⟨List.mem_of_find?_eq_some ht, by simpa using List.find?_some ht⟩
  · rintro ⟨ht, rfl⟩
    cases hfind : types.find? (·.name == t.name) with
    | none => simpa using List.find?_eq_none.1 hfind t ht
    | some u =>
      have hname : u.name = t.name := by simpa using List.find?_some hfind
      rw [List.inj_on_of_nodup_map h (List.mem_of_find?_eq_some hfind) ht hname]

lemma last?_eq_some_iff_of_nodup (h : (types.map (·.name)).Nodup) :
    last? types n = some t ↔ t ∈ types ∧ t.name = n := by
  have hreverse : (types.reverse.map (·.name)).Nodup := by
    rwa [List.map_reverse, List.nodup_reverse]
  rw [last?, find?_eq_some_iff_of_nodup hreverse, List.mem_reverse]

lemma find?_eq_of_perm (h : (types.map (·.name)).Nodup) (hperm : types.Perm types') (n : String) :
    types.find? (·.name == n) = types'.find? (·.name == n) := by
  ext t
  rw [find?_eq_some_iff_of_nodup h, find?_eq_some_iff_of_nodup ((hperm.map _).nodup_iff.1 h),
    hperm.mem_iff]

lemma map_name_normal (types : List TypeDefinition) :
    (types.map TypeDefinition.normal).map (·.name) = types.map (·.name) := by
  simp only [List.map_map, Function.comp_def, TypeDefinition.normal_name]

/-- Names stay distinct if types are added whose names are not taken. -/
lemma nodup_append_filter (h : (types.map (·.name)).Nodup) (h' : (types'.map (·.name)).Nodup) :
    ((types ++ types'.filter fun t => !types.any (·.name == t.name)).map (·.name)).Nodup := by
  rw [List.map_append, List.nodup_append]
  refine ⟨h, h'.sublist (List.filter_sublist.map _), ?_⟩
  rintro a ha b hb rfl
  obtain ⟨t, ht, rfl⟩ := List.mem_map.1 ha
  obtain ⟨u, hu, hname⟩ := List.mem_map.1 hb
  simp only [List.mem_filter, Bool.not_eq_true', List.any_eq_false, beq_iff_eq] at hu
  exact hu.2 t ht hname.symm

/-- The pool takes no name from the external types that the document defines itself. -/
lemma nodup_pool (hd : (d.types.map (·.name)).Nodup) (he : (external.map (·.name)).Nodup) :
    ((pool external d).map (·.name)).Nodup := by
  rw [← map_name_normal] at he
  exact nodup_append_filter hd he

lemma nodup_types_normal (hd : (d.types.map (·.name)).Nodup) :
    (d.normal.types.map (·.name)).Nodup := by
  rw [(d.normal_types_perm.map _).nodup_iff, map_name_normal]
  exact hd

/-! ### Roots -/

/-- The root types depend on the first types of given names only. -/
lemma rootType_congr (h : ∀ n, types.find? (·.name == n) = types'.find? (·.name == n)) :
    rootType types operation declared = rootType types' operation declared := by
  cases declared <;> simp only [rootType, h]

/-- A root type is the first type of its name, which is the declared name or the conventional one,
and an object type. -/
lemma rootType_eq_ok_some_iff :
    rootType types operation declared = .ok (some t) ↔
      types.find? (·.name == declared.getD operation.conventionalName) = some t ∧
        t.isObject = true := by
  cases declared with
  | some n =>
    simp only [rootType, Option.getD_some]
    cases types.find? (·.name == n) with
    | none => simp
    | some u => grind
  | none =>
    simp only [rootType, Option.getD_none]
    cases types.find? (·.name == operation.conventionalName) with
    | none => simp
    | some u => grind

lemma name_of_rootType (h : rootType types operation declared = .ok (some t)) :
    t.name = declared.getD operation.conventionalName := by
  simpa using List.find?_some (rootType_eq_ok_some_iff.1 h).1

lemma rootType_eq_ok_some (h : rootType types operation declared = .ok (some t)) :
    types.find? (·.name == t.name) = some t ∧ t.isObject = true := by
  rw [name_of_rootType h]
  exact rootType_eq_ok_some_iff.1 h

/-- The root type of an operation that is declared with the name of an object type. -/
lemma rootType_some_of_mem (hnodup : (types.map (·.name)).Nodup) (ht : t ∈ types)
    (hobject : t.isObject = true) : rootType types operation (some t.name) = .ok (some t) :=
  rootType_eq_ok_some_iff.2 ⟨(find?_eq_some_iff_of_nodup hnodup).2 ⟨ht, rfl⟩, hobject⟩

/-- An operation without a root type has no declared one, and no object type of its conventional
name. -/
lemma rootType_eq_ok_none_iff :
    rootType types operation declared = .ok none ↔ declared = none ∧
      ∀ t, types.find? (·.name == operation.conventionalName) = some t → t.isObject = false := by
  cases declared with
  | some name =>
    simp only [rootType, reduceCtorEq, false_and, iff_false]
    split
    · split <;> simp
    · simp
  | none =>
    simp only [rootType, true_and]
    split
    next u hu =>
      by_cases hobject : u.isObject = true
      · simp [hu, hobject]
      · simp [hu, hobject]
    next hnone => simp [hnone]

/-- An operation that declares no root type can do without one. -/
lemma exists_rootType_undeclared (types : List TypeDefinition) (operation : RootOperation) :
    ∃ root, rootType types operation none = .ok root := by
  rw [rootType]
  split
  · split <;> simp
  · simp

/-- The name of a root type that a document declares. -/
def declaredRoot (d : Document) (operation : RootOperation) : Option String :=
  d.schema?.bind (·.root? operation)

/-- A document has a schema if its query root and its mutation root can be resolved. -/
lemma ofDocument_eq_ok_some_iff :
    ofDocument external d = .ok (some s) ↔
      rootType (pool external d) .query (declaredRoot d .query) = .ok (some s.query) ∧
      rootType (pool external d) .mutation (declaredRoot d .mutation) = .ok s.mutation ∧
      s.subscription = (rootType (pool external d) .subscription
        (declaredRoot d .subscription)).toOption.join ∧
      s.types = pool external d := by
  obtain ⟨query, mutation, subscription, types⟩ := s
  simp only [ofDocument, declaredRoot]
  cases rootType (pool external d) .query (d.schema?.bind (·.root? .query)) with
  | error e => simp [bind, Except.bind]
  | ok query' =>
    cases rootType (pool external d) .mutation (d.schema?.bind (·.root? .mutation)) with
    | error e => simp [bind, Except.bind]
    | ok mutation' =>
      cases query' with
      | none => simp [bind, Except.bind, pure, Except.pure]
      | some query' =>
        simp only [bind, Except.bind, pure, Except.pure, Option.map_some, Except.ok.injEq,
          Option.some.injEq, Schema.mk.injEq]
        constructor
        · rintro ⟨rfl, rfl, rfl, rfl⟩
          exact ⟨rfl, rfl, rfl, rfl⟩
        · rintro ⟨rfl, rfl, rfl, rfl⟩
          exact ⟨rfl, rfl, rfl, rfl⟩

/-- A document has no schema if it has no query root, and its mutation root can be resolved. -/
lemma ofDocument_eq_ok_none_iff :
    ofDocument external d = .ok none ↔
      rootType (pool external d) .query (declaredRoot d .query) = .ok none ∧
      ∃ mutation, rootType (pool external d) .mutation (declaredRoot d .mutation) =
        .ok mutation := by
  simp only [ofDocument, declaredRoot]
  cases rootType (pool external d) .query (d.schema?.bind (·.root? .query)) with
  | error e => simp [bind, Except.bind]
  | ok query =>
    cases rootType (pool external d) .mutation (d.schema?.bind (·.root? .mutation)) with
    | error e => simp [bind, Except.bind]
    | ok mutation => cases query <;> simp [bind, Except.bind, pure, Except.pure]

end CanonicalSdl.Schema

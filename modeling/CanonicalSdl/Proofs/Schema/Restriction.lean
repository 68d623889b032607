import CanonicalSdl.Proofs.Schema.Closure

/-!
# Pools that are restricted to some names

Types can be left out of a pool without changing what is reached from given names, provided that all
types of a name are left out together and no name that is reached is left without its types.
-/

namespace CanonicalSdl.Schema

open Relation (ReflTransGen)

variable {types : List TypeDefinition} {p : String → Bool} {names names' : List String}
  {t : TypeDefinition} {n m a : String} {operation : RootOperation} {declared : Option String}

/-- The types whose names have a given property. -/
def restrict (p : String → Bool) (types : List TypeDefinition) : List TypeDefinition :=
  types.filter fun t => p t.name

/-! ### Look-ups -/

lemma mem_restrict : t ∈ restrict p types ↔ t ∈ types ∧ p t.name = true :=
  List.mem_filter

lemma find?_restrict_of_pos (hn : p n = true) :
    (restrict p types).find? (·.name == n) = types.find? (·.name == n) := by
  rw [restrict, List.find?_filter]
  congr 1
  funext t
  by_cases h : t.name = n <;> simp [h, hn]

lemma find?_restrict_of_neg (hn : p n = false) :
    (restrict p types).find? (·.name == n) = none := by
  rw [List.find?_eq_none]
  intro t ht hname
  rw [mem_restrict, eq_of_beq hname, hn] at ht
  exact Bool.false_ne_true ht.2

lemma last?_restrict_of_pos (hn : p n = true) : last? (restrict p types) n = last? types n := by
  have hreverse : (restrict p types).reverse = restrict p types.reverse := by
    rw [restrict, restrict, List.filter_reverse]
  rw [last?, hreverse, find?_restrict_of_pos hn, last?]

lemma last?_of_restrict (h : last? (restrict p types) n = some t) : last? types n = some t := by
  have hp : p n = true := name_of_last? h ▸ (mem_restrict.1 (mem_of_last? h)).2
  rwa [last?_restrict_of_pos hp] at h

/-! ### Roots -/

/-- A root is found again if its name is kept, and none is found by leaving types out. -/
lemma rootType_restrict {root : Option TypeDefinition}
    (h : rootType types operation declared = .ok root) (hp : ∀ t ∈ root, p t.name = true) :
    rootType (restrict p types) operation declared = .ok root := by
  cases root with
  | some t =>
    rw [rootType_eq_ok_some_iff, ← name_of_rootType h, find?_restrict_of_pos (hp t rfl)]
    exact rootType_eq_ok_some h
  | none =>
    rw [rootType_eq_ok_none_iff] at h ⊢
    refine ⟨h.1, fun t ht => ?_⟩
    cases hkept : p operation.conventionalName with
    | true => exact h.2 t (find?_restrict_of_pos hkept ▸ ht)
    | false => simp [find?_restrict_of_neg hkept] at ht

/-- An operation can still be resolved if the declared name is kept. -/
lemma exists_rootType_restrict {root : Option TypeDefinition}
    (h : rootType types operation declared = .ok root) (hp : ∀ n ∈ declared, p n = true) :
    ∃ root, rootType (restrict p types) operation declared = .ok root := by
  cases declared with
  | none => exact exists_rootType_undeclared _ _
  | some n =>
    refine ⟨root, rootType_restrict h ?_⟩
    rintro t rfl
    rw [name_of_rootType h]
    exact hp n rfl

/-! ### Closures -/

/-- The property holds of all names that are reached and stand for a type. -/
def KeepsReached (types : List TypeDefinition) (names : List String) (p : String → Bool) : Prop :=
  ∀ n, ReachedFrom types names n → n ∉ builtinScalars → n ∈ types.map (·.name) → p n = true

lemma follows_of_restrict (h : Follows (restrict p types) n m) : Follows types n m := by
  cases h with
  | mention custom last mention => exact .mention custom (last?_of_restrict last) mention
  | implementation custom last mem object lists =>
    exact .implementation custom (last?_of_restrict last) (mem_restrict.1 mem).1 object lists

lemma follows_restrict (h : Follows types n m) (hn : p n = true) (hm : p m = true) :
    Follows (restrict p types) n m := by
  cases h with
  | mention custom last mention =>
    exact .mention custom ((last?_restrict_of_pos hn).trans last) mention
  | implementation custom last mem object lists =>
    exact .implementation custom ((last?_restrict_of_pos hn).trans last)
      (mem_restrict.2 ⟨mem, hm⟩) object lists

namespace KeepsReached

variable (h : KeepsReached types names p)

include h

lemma mono (hsubset : names' ⊆ names) : KeepsReached types names' p := by
  rintro n ⟨a, ha, hpath⟩
  exact h n ⟨a, hsubset ha, hpath⟩

/-- A path to a type is left as it is. -/
lemma reflTransGen_restrict (ha : a ∈ names) (hpath : ReflTransGen (Follows types) a n)
    (hbuiltin : n ∉ builtinScalars) (hmem : n ∈ types.map (·.name)) :
    ReflTransGen (Follows (restrict p types)) a n := by
  induction hpath with
  | refl => exact .refl
  | @tail b c hpath hstep ih =>
    have hkept : p b = true := h b ⟨a, ha, hpath⟩ hstep.custom hstep.mem_names
    have hkept' : p c = true := h c ⟨a, ha, hpath.tail hstep⟩ hbuiltin hmem
    exact (ih hstep.custom hstep.mem_names).tail (follows_restrict hstep hkept hkept')

/-- What is reached is not changed by leaving out types that are not reached, and neither by leaving
out names that stand for no type. -/
lemma closure_restrict (hsubset : names' ⊆ names)
    (hnames : ∀ a ∈ names, a ∉ builtinScalars → a ∈ types.map (·.name) → a ∈ names') :
    closure (restrict p types) names' = closure types names := by
  apply closure_eq_of_mem_iff
  intro t
  rw [mem_closure_iff, mem_closure_iff]
  constructor
  · rintro ⟨hbuiltin, hlast, a, ha, hpath⟩
    rw [last?_restrict_of_pos (mem_restrict.1 (mem_of_last? hlast)).2] at hlast
    exact ⟨hbuiltin, hlast, a, hsubset ha, hpath.lift id fun _ _ => follows_of_restrict⟩
  · rintro ⟨hbuiltin, hlast, a, ha, hpath⟩
    have hmem := List.mem_map_of_mem (f := (·.name)) (mem_of_last? hlast)
    have hkept : p t.name = true := h t.name ⟨a, ha, hpath⟩ hbuiltin hmem
    have hstart : a ∈ names' := by
      rcases hpath.cases_head with rfl | ⟨b, hstep, -⟩
      · exact hnames _ ha hbuiltin hmem
      · exact hnames a ha hstep.custom hstep.mem_names
    exact ⟨hbuiltin, (last?_restrict_of_pos hkept).trans hlast, a, hstart,
      h.reflTransGen_restrict ha hpath hbuiltin hmem⟩

end KeepsReached

end CanonicalSdl.Schema

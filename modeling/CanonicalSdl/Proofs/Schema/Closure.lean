import CanonicalSdl.Proofs.Schema.Resolution
import CanonicalSdl.Proofs.Text.Utf8

/-!
# Closures

A type mentions other types by name, and an interface stands for all types that implement it. The
closure of some names has the types that can be reached in this way. It is determined by its
members: they have distinct names, and their order is that of their keys and then of their names, so
that nothing of the walk shows in it.
-/

namespace CanonicalSdl

open Relation (ReflTransGen)

/-! ### The order of a closure -/

/-- The type comes before another one by its key, or by its name if the keys are the same. -/
def TypeDefinition.Precedes (t u : TypeDefinition) : Prop :=
  (Ord.compare t.orderKey.bytes u.orderKey.bytes).isLE = true ∧
    (t.orderKey.bytes = u.orderKey.bytes →
      (Ord.compare (Text.utf8 t.name) (Text.utf8 u.name)).isLE = true)

lemma TypeDefinition.Precedes.name_eq {t u : TypeDefinition} (h : t.Precedes u)
    (h' : u.Precedes t) : t.name = u.name := by
  have hkey := eq_of_isLE_compare h.1 h'.1
  exact Text.utf8_injective (eq_of_isLE_compare (h.2 hkey) (h'.2 hkey.symm))

/-- Lists in this order that have the same members of distinct names are the same. -/
lemma eq_of_pairwise_precedes {ts us : List TypeDefinition}
    (hts : ts.Pairwise TypeDefinition.Precedes) (hus : us.Pairwise TypeDefinition.Precedes)
    (htn : (ts.map (·.name)).Nodup) (hun : (us.map (·.name)).Nodup)
    (hmem : ∀ t, t ∈ ts ↔ t ∈ us) : ts = us := by
  have hperm : ts.Perm us := (List.perm_ext_iff_of_nodup htn.of_map hun.of_map).2 hmem
  refine hperm.eq_of_pairwise (fun t u ht hu h h' => ?_) hts hus
  exact List.inj_on_of_nodup_map htn ht ((hmem u).2 hu) (h.name_eq h')

/-! ### Names that a type mentions -/

namespace TypeDefinition

/-- The fields of an input object type. -/
def inputFields (t : TypeDefinition) : List InputValue :=
  match t.body with
  | .input fields => fields
  | _ => []

/-- The members of a union type. -/
def members (t : TypeDefinition) : List String :=
  match t.body with
  | .union members => members
  | _ => []

/-- The type mentions a name: as one of its interfaces, as the type of a field, of an argument of a
field or of an input field, or as a member. -/
inductive Mentions (t : TypeDefinition) : String → Prop where
  | interface {n} (listed : n ∈ t.implements) : t.Mentions n
  | field {f} (mem : f ∈ t.fields) : t.Mentions f.type.targetName
  | argument {f v} (mem : f ∈ t.fields) (argument : v ∈ f.arguments) :
      t.Mentions v.type.targetName
  | inputField {v} (mem : v ∈ t.inputFields) : t.Mentions v.type.targetName
  | member {n} (mem : n ∈ t.members) : t.Mentions n

lemma references_eq (t : TypeDefinition) :
    t.references = t.implements ++ t.fields.flatMap Field.references ++
      t.inputFields.map (·.type.targetName) ++ t.members := by
  obtain ⟨description, name, directives, body⟩ := t
  cases body <;> simp [references, implements, fields, inputFields, members]

lemma mem_references_iff {t : TypeDefinition} {n : String} : n ∈ t.references ↔ t.Mentions n := by
  simp only [references_eq, List.mem_append, List.mem_flatMap, Field.references, List.mem_cons,
    List.mem_map, or_assoc]
  constructor
  · rintro (listed | ⟨f, hf, rfl | ⟨v, hv, rfl⟩⟩ | ⟨v, hv, rfl⟩ | mem)
    · exact .interface listed
    · exact .field hf
    · exact .argument hf hv
    · exact .inputField hv
    · exact .member mem
  · rintro (listed | mem | ⟨mem, argument⟩ | mem | mem)
    · exact .inl listed
    · exact .inr (.inl ⟨_, mem, .inl rfl⟩)
    · exact .inr (.inl ⟨_, mem, .inr ⟨_, argument, rfl⟩⟩)
    · exact .inr (.inr (.inl ⟨_, mem, rfl⟩))
    · exact .inr (.inr (.inr mem))

end TypeDefinition

namespace Schema

/-! ### Names that can be reached -/

/-- A name follows another one, which is not that of a built-in scalar type, if the last type of the
other name mentions it, or if it is that of any object type of the pool that lists the other name
among its interfaces. -/
inductive Follows (types : List TypeDefinition) (n : String) : String → Prop where
  | mention {t m} (custom : n ∉ builtinScalars) (last : last? types n = some t)
      (mention : t.Mentions m) : Follows types n m
  | implementation {t u} (custom : n ∉ builtinScalars) (last : last? types n = some t)
      (mem : u ∈ types) (object : u.isObject = true) (lists : n ∈ u.implements) :
      Follows types n u.name

/-- The name can be reached from one of some names. -/
def ReachedFrom (types : List TypeDefinition) (names : List String) (n : String) : Prop :=
  ∃ a ∈ names, ReflTransGen (Follows types) a n

variable {types types' : List TypeDefinition} {names names' : List String} {t u : TypeDefinition}
  {n m : String}

lemma mem_implementations :
    m ∈ implementations types n ↔
      ∃ t ∈ types, t.isObject = true ∧ n ∈ t.implements ∧ t.name = m := by
  simp [implementations, and_assoc]

/-- The names that follow a name are those that its type refers to, and those of the types that
implement it. -/
lemma follows_iff : Follows types n m ↔ n ∉ builtinScalars ∧
    ∃ t, last? types n = some t ∧ (m ∈ t.references ∨ m ∈ implementations types n) := by
  constructor
  · rintro (⟨hcustom, hlast, hm⟩ | ⟨hcustom, hlast, hu, hobject, hlists⟩)
    · exact ⟨hcustom, _, hlast, .inl (TypeDefinition.mem_references_iff.2 hm)⟩
    · exact ⟨hcustom, _, hlast, .inr (mem_implementations.2 ⟨_, hu, hobject, hlists, rfl⟩)⟩
  · rintro ⟨hcustom, t, hlast, hm | hm⟩
    · exact .mention hcustom hlast (TypeDefinition.mem_references_iff.1 hm)
    · obtain ⟨u, hu, hobject, hlists, rfl⟩ := mem_implementations.1 hm
      exact .implementation hcustom hlast hu hobject hlists

lemma ReachedFrom.next (h : ReachedFrom types names n) (hm : Follows types n m) :
    ReachedFrom types names m := by
  obtain ⟨a, ha, hpath⟩ := h
  exact ⟨a, ha, hpath.tail hm⟩

/-- What holds of the first names, and of those that follow a name of which it holds, holds of all
names that are reached. -/
@[elab_as_elim]
lemma ReachedFrom.induct {P : String → Prop} (h : ReachedFrom types names n)
    (hstart : ∀ a ∈ names, P a) (hnext : ∀ n m, P n → Follows types n m → P m) : P n := by
  obtain ⟨a, ha, hpath⟩ := h
  induction hpath with
  | refl => exact hstart a ha
  | tail _ hstep ih => exact hnext _ _ ih hstep

lemma Follows.custom (h : Follows types n m) : n ∉ builtinScalars := by
  cases h <;> assumption

lemma Follows.exists_last (h : Follows types n m) : ∃ t, last? types n = some t := by
  cases h <;> exact ⟨_, ‹_›⟩

/-- A name that is followed by any stands for a type. -/
lemma Follows.mem_names (h : Follows types n m) : n ∈ types.map (·.name) := by
  obtain ⟨t, hlast⟩ := h.exists_last
  exact List.mem_map.2 ⟨t, mem_of_last? hlast, name_of_last? hlast⟩

lemma reachedFrom_append : ReachedFrom types (names ++ names') n ↔
    ReachedFrom types names n ∨ ReachedFrom types names' n := by
  simp only [ReachedFrom, List.mem_append, or_and_right, exists_or]

/-! ### The members of a closure -/

/-- The names that a walk through all types goes on to are those that follow. -/
lemma stepsVia_namedTypes : StepsVia types (namedTypes types) = Follows types := by
  funext n m
  rw [eq_iff_iff, follows_iff]
  constructor
  · rintro ⟨t, ht, rfl, hm⟩
    exact ⟨(mem_namedTypes.1 ht).1, t, (mem_namedTypes.1 ht).2, hm⟩
  · rintro ⟨hbuiltin, t, hlast, hm⟩
    obtain rfl := name_of_last? hlast
    exact ⟨t, mem_namedTypes.2 ⟨hbuiltin, hlast⟩, rfl, hm⟩

lemma closure_perm : (closure types names).Perm (walk types (namedTypes types) names) :=
  (sortByBytes_perm _ _).trans (sortByBytes_perm _ _)

/-- A closure has the types that names stand for which can be reached. -/
theorem mem_closure_iff :
    t ∈ closure types names ↔
      t.name ∉ builtinScalars ∧ last? types t.name = some t ∧ ReachedFrom types names t.name := by
  rw [closure_perm.mem_iff, mem_walk_iff (nodup_namedTypes types), mem_namedTypes, and_assoc,
    ReachesVia, stepsVia_namedTypes]
  rfl

lemma nodup_closure : ((closure types names).map (·.name)).Nodup :=
  (closure_perm.map _).nodup_iff.2 (nodup_walk (nodup_namedTypes types))

lemma pairwise_closure : (closure types names).Pairwise TypeDefinition.Precedes :=
  pairwise_sortByBytes_sortByBytes _ _ _

/-- Closures are the same if they have the same members. -/
lemma closure_eq_of_mem_iff (h : ∀ t, t ∈ closure types names ↔ t ∈ closure types' names') :
    closure types names = closure types' names' :=
  eq_of_pairwise_precedes pairwise_closure pairwise_closure nodup_closure nodup_closure h

/-- Nothing else is reached from a type whose name is followed by that of no type of the pool. -/
lemma closure_singleton (hbuiltin : t.name ∉ builtinScalars) (hlast : last? types t.name = some t)
    (hends : ∀ m ∈ t.references ++ implementations types t.name,
      m ∈ builtinScalars ∨ m ∉ types.map (·.name)) :
    closure types [t.name] = [t] := by
  apply eq_of_pairwise_precedes pairwise_closure (List.pairwise_singleton _ t) nodup_closure
    (List.nodup_singleton _)
  intro u
  rw [mem_closure_iff, List.mem_singleton]
  constructor
  · rintro ⟨hu, hlast', hreached⟩
    have hname : u.name = t.name ∨ u.name ∈ builtinScalars ∨ u.name ∉ types.map (·.name) := by
      refine hreached.induct (fun a ha => .inl (List.mem_singleton.1 ha)) ?_
      rintro n m (rfl | hend) hstep
      · obtain ⟨-, t', ht', hm⟩ := follows_iff.1 hstep
        obtain rfl : t = t' := Option.some.inj (hlast.symm.trans ht')
        exact .inr (hends m (List.mem_append.2 hm))
      · -- no name follows such a name
        exact absurd hstep.mem_names (hend.resolve_left hstep.custom)
    rcases hname with hname | hend
    · rw [hname, hlast] at hlast'
      exact (Option.some.inj hlast').symm
    · exact absurd (List.mem_map_of_mem (mem_of_last? hlast')) (hend.resolve_left hu)
  · rintro rfl
    exact ⟨hbuiltin, hlast, u.name, List.mem_singleton_self _, .refl⟩

/-! ### Pools in another order -/

/-- The pools have the same types, and the same first and the same last type of each name. -/
structure Interchangeable (types types' : List TypeDefinition) : Prop where
  perm : types.Perm types'
  first : ∀ n, types.find? (·.name == n) = types'.find? (·.name == n)
  last : ∀ n, last? types n = last? types' n

lemma last?_eq_of_perm (h : (types.map (·.name)).Nodup) (hperm : types.Perm types') (n : String) :
    last? types n = last? types' n := by
  ext t
  rw [last?_eq_some_iff_of_nodup h, last?_eq_some_iff_of_nodup ((hperm.map _).nodup_iff.1 h),
    hperm.mem_iff]

/-- With distinct names the order of a pool is of no account. -/
lemma interchangeable_of_perm (h : (types.map (·.name)).Nodup) (hperm : types.Perm types') :
    Interchangeable types types' where
  perm := hperm
  first := find?_eq_of_perm h hperm
  last := last?_eq_of_perm h hperm

namespace Interchangeable

variable (h : Interchangeable types types')

include h

lemma append (others : List TypeDefinition) :
    Interchangeable (types ++ others) (types' ++ others) where
  perm := h.perm.append_right others
  first := fun n => by rw [List.find?_append, List.find?_append, h.first]
  last := fun n => by rw [last?_append, last?_append, h.last]

lemma follows_eq : Follows types = Follows types' := by
  funext n m
  simp only [follows_iff, h.last, mem_implementations, h.perm.mem_iff]

/-- Neither the order of a pool shows in a closure nor that of the names it begins with. -/
lemma closure_eq (hnames : ∀ n, n ∈ names ↔ n ∈ names') :
    closure types names = closure types' names' := by
  apply closure_eq_of_mem_iff
  intro t
  simp only [mem_closure_iff, h.last, ReachedFrom, h.follows_eq, hnames]

end Interchangeable

end Schema

end CanonicalSdl

import CanonicalSdl.Schema.Closure
import Mathlib.Data.List.Nodup
import Mathlib.Logic.Relation

/-!
# What a walk meets

A walk meets exactly the types that can be reached from its names: no type is met twice, none is
missed, however the types refer to each other, and the order of the walk is of no account.
-/

namespace CanonicalSdl.Schema

open Relation (ReflTransGen)

variable {types unseen : List TypeDefinition} {names queue rest : List String}
  {t u : TypeDefinition} {n m : String}

/-! ### The type a name stands for -/

/-- The last of the types that has a given name. -/
def last? (types : List TypeDefinition) (name : String) : Option TypeDefinition :=
  types.reverse.find? (·.name == name)

lemma name_of_last? (h : last? types n = some t) : t.name = n := by
  simpa using List.find?_some h

lemma mem_of_last? (h : last? types n = some t) : t ∈ types :=
  List.mem_reverse.1 (List.mem_of_find?_eq_some h)

lemma exists_last? (h : t ∈ types) : ∃ u, last? types t.name = some u := by
  rw [← Option.isSome_iff_exists, last?, List.find?_isSome]
  exact ⟨t, List.mem_reverse.2 h, by simp⟩

lemma last?_cons :
    last? (t :: types) n = (last? types n).or (if t.name = n then some t else none) := by
  rw [last?, List.reverse_cons, List.find?_append, last?]
  congr 1
  by_cases h : t.name = n <;> simp [h]

lemma last?_append {types' : List TypeDefinition} :
    last? (types ++ types') n = (last? types' n).or (last? types n) := by
  rw [last?, List.reverse_append, List.find?_append, last?, last?]

lemma last?_eq_none_iff : last? types n = none ↔ ∀ t ∈ types, t.name ≠ n := by
  simp [last?]

/-- A name stands for the last type of that name, unless it is that of a built-in scalar type. -/
lemma mem_namedTypes :
    t ∈ namedTypes types ↔ t.name ∉ builtinScalars ∧ last? types t.name = some t := by
  induction types with
  | nil => simp [namedTypes, last?]
  | cons u types ih =>
    rw [namedTypes, last?_cons]
    split
    next hskip =>
      -- a type that is left out is never the last one of a name that counts
      rw [ih]
      apply and_congr_right
      intro hbuiltin
      cases hlast : last? types t.name with
      | some v => simp
      | none =>
        have hne : u.name ≠ t.name := by
          rintro heq
          rw [Bool.or_eq_true, List.any_eq_true] at hskip
          rcases hskip with hb | ⟨v, hv, hveq⟩
          · exact hbuiltin (heq ▸ by simpa using hb)
          · exact last?_eq_none_iff.1 hlast v hv ((by simpa using hveq : v.name = u.name).trans heq)
        simp [hne]
    next hkeep =>
      simp only [Bool.or_eq_true, List.any_eq_true, not_or, not_exists, not_and, beq_iff_eq,
        List.contains_eq_mem, decide_eq_true_eq] at hkeep
      have hnone : last? types u.name = none := last?_eq_none_iff.2 hkeep.2
      -- the type that is kept is the last one of its name, as none with this name follows
      rw [List.mem_cons, ih]
      constructor
      · rintro (rfl | ⟨hbuiltin, hlast⟩)
        · exact ⟨hkeep.1, by simp [hnone]⟩
        · exact ⟨hbuiltin, by simp [hlast]⟩
      · rintro ⟨hbuiltin, hlast⟩
        cases hrest : last? types t.name with
        | some v => exact .inr ⟨hbuiltin, by simpa [hrest] using hlast⟩
        | none =>
          rw [hrest, Option.none_or] at hlast
          split at hlast
          · exact .inl (Option.some.inj hlast).symm
          · contradiction

lemma nodup_namedTypes (types : List TypeDefinition) :
    ((namedTypes types).map (·.name)).Nodup := by
  induction types with
  | nil => simp [namedTypes]
  | cons u types ih =>
    rw [namedTypes]
    split
    · exact ih
    next hkeep =>
      rw [List.map_cons, List.nodup_cons]
      refine ⟨?_, ih⟩
      intro hmem
      obtain ⟨v, hv, hname⟩ := List.mem_map.1 hmem
      have hv := mem_of_last? (mem_namedTypes.1 hv).2
      simp only [Bool.or_eq_true, List.any_eq_true, not_or, not_exists] at hkeep
      exact hkeep.2 v ⟨hv, by simpa using hname⟩

/-! ### Steps -/

/-- A step leads from the name of one of the types that have not been seen to the names the type
refers to, and to those of the object types that list it among their interfaces. -/
def StepsVia (types unseen : List TypeDefinition) (n m : String) : Prop :=
  ∃ t ∈ unseen, t.name = n ∧ (m ∈ t.references ∨ m ∈ implementations types n)

/-- The name can be reached from one of some names. -/
def ReachesVia (types unseen : List TypeDefinition) (names : List String) (n : String) : Prop :=
  ∃ a ∈ names, ReflTransGen (StepsVia types unseen) a n

lemma StepsVia.mono {unseen' : List TypeDefinition} (hsub : unseen' ⊆ unseen)
    (h : StepsVia types unseen' n m) : StepsVia types unseen n m := by
  obtain ⟨t, ht, hname, hm⟩ := h
  exact ⟨t, hsub ht, hname, hm⟩

lemma eq_of_mem_of_name_eq (hnodup : (unseen.map (·.name)).Nodup) (ht : t ∈ unseen)
    (hu : u ∈ unseen) (h : t.name = u.name) : t = u :=
  List.inj_on_of_nodup_map hnodup ht hu h

/-- A path that goes through a type can begin right after its last visit to it. -/
lemma reflTransGen_or_reachesVia (hnodup : (unseen.map (·.name)).Nodup) (hu : u ∈ unseen)
    (h : ReflTransGen (StepsVia types unseen) n m) :
    ReflTransGen (StepsVia types (withoutName u.name unseen)) n m ∨
      ReachesVia types (withoutName u.name unseen)
        (u.references ++ implementations types u.name) m := by
  induction h with
  | refl => exact .inl .refl
  | @tail b c hpath hstep ih =>
    obtain ⟨t, ht, hname, hc⟩ := hstep
    by_cases hb : t.name = u.name
    · -- the last step is one from the type itself
      obtain rfl := eq_of_mem_of_name_eq hnodup ht hu hb
      refine .inr ⟨c, List.mem_append.2 ?_, .refl⟩
      rwa [hname]
    · have hstep : StepsVia types (withoutName u.name unseen) b c :=
        ⟨t, List.mem_filter.2 ⟨ht, by simpa using hb⟩, hname, hc⟩
      rcases ih with hpath | ⟨a, ha, hpath⟩
      · exact .inl (hpath.tail hstep)
      · exact .inr ⟨a, ha, hpath.tail hstep⟩

/-! ### The walk -/

lemma nextType?_eq_none_iff :
    nextType? types queue = none ↔ ∀ a ∈ queue, ∀ t ∈ types, t.name ≠ a := by
  induction queue with
  | nil => simp [nextType?]
  | cons a queue ih =>
    rw [nextType?, List.forall_mem_cons]
    split
    next t ht =>
      have hname : t.name = a := by simpa using List.find?_some ht
      simp only [reduceCtorEq, false_iff, not_and]
      exact fun hall => absurd hname (hall t (List.mem_of_find?_eq_some ht))
    next hnone =>
      rw [ih]
      exact (and_iff_right (by simpa using hnone)).symm

/-- The names before that of the next type stand for none of the types. -/
lemma exists_eq_append_of_nextType? (h : nextType? types queue = some (t, rest)) :
    t ∈ types ∧ ∃ skipped, queue = skipped ++ t.name :: rest ∧
      ∀ a ∈ skipped, ∀ u ∈ types, u.name ≠ a := by
  induction queue with
  | nil => simp [nextType?] at h
  | cons a queue ih =>
    rw [nextType?] at h
    split at h
    next u hu =>
      obtain ⟨rfl, rfl⟩ : u = t ∧ queue = rest := by simpa using h
      have hname : u.name = a := by simpa using List.find?_some hu
      exact ⟨List.mem_of_find?_eq_some hu, [], by simp [hname], by simp⟩
    next hnone =>
      obtain ⟨ht, skipped, rfl, hskipped⟩ := ih h
      refine ⟨ht, a :: skipped, rfl, ?_⟩
      rw [List.forall_mem_cons]
      exact ⟨by simpa using hnone, hskipped⟩

lemma reachesVia_of_mem (h : n ∈ names) : ReachesVia types unseen names n :=
  ⟨n, h, .refl⟩

lemma nodup_withoutName (hnodup : (unseen.map (·.name)).Nodup) :
    ((withoutName n unseen).map (·.name)).Nodup :=
  hnodup.sublist (List.filter_sublist.map _)

/-- No step leads on from a name that stands for none of the types. -/
lemma eq_of_reflTransGen (hn : ∀ t ∈ unseen, t.name ≠ n)
    (h : ReflTransGen (StepsVia types unseen) n m) : n = m := by
  rcases h.cases_head with heq | ⟨c, ⟨t, ht, hname, -⟩, -⟩
  · exact heq
  · exact absurd hname (hn t ht)

/-- Another type than the next one is reached from the queue if it is reached, without the next one,
from the rest of the queue and from what the next one leads to. -/
lemma reachesVia_iff_of_nextType? (hnodup : (unseen.map (·.name)).Nodup)
    (hnext : nextType? unseen queue = some (u, rest)) (ht : t ∈ unseen) (htu : t.name ≠ u.name) :
    ReachesVia types unseen queue t.name ↔ ReachesVia types (withoutName u.name unseen)
      (rest ++ u.references ++ implementations types u.name) t.name := by
  obtain ⟨hu, skipped, rfl, hskipped⟩ := exists_eq_append_of_nextType? hnext
  rw [List.append_assoc]
  constructor
  · rintro ⟨a, ha, hpath⟩
    rcases reflTransGen_or_reachesVia hnodup hu hpath with hpath' | ⟨b, hb, hpath'⟩
    · -- the path does not go through the next type
      rcases List.mem_append.1 ha with ha | ha
      · -- a name that was skipped leads nowhere
        obtain rfl := eq_of_reflTransGen (hskipped a ha) hpath
        exact absurd rfl (hskipped _ ha t ht)
      rcases List.mem_cons.1 ha with rfl | ha
      · have hnone : ∀ v ∈ withoutName u.name unseen, v.name ≠ u.name := by
          intro v hv
          simpa using (List.mem_filter.1 hv).2
        exact absurd (eq_of_reflTransGen hnone hpath').symm htu
      · exact ⟨a, List.mem_append_left _ ha, hpath'⟩
    · exact ⟨b, List.mem_append_right _ hb, hpath'⟩
  · rintro ⟨a, ha, hpath⟩
    have hpath := hpath.lift id fun _ _ => StepsVia.mono (List.filter_subset_self _)
    rcases List.mem_append.1 ha with ha | ha
    · exact ⟨a, by simp [ha], hpath⟩
    · exact ⟨u.name, by simp, .head ⟨u, hu, rfl, List.mem_append.1 ha⟩ hpath⟩

/-- A walk meets the types that have not been seen and can be reached through such types. -/
theorem mem_walk_iff (hnodup : (unseen.map (·.name)).Nodup) :
    t ∈ walk types unseen queue ↔ t ∈ unseen ∧ ReachesVia types unseen queue t.name := by
  fun_induction walk types unseen queue with
  | case1 unseen queue hnone =>
    -- the queue stands for none of the types, so that it leads nowhere
    rw [nextType?_eq_none_iff] at hnone
    refine ⟨by simp, ?_⟩
    rintro ⟨ht, a, ha, hpath⟩
    obtain rfl := eq_of_reflTransGen (hnone a ha) hpath
    exact absurd rfl (hnone _ ha t ht)
  | case2 unseen queue u rest hnext ih =>
    have hmem : t ∈ withoutName u.name unseen ↔ t ∈ unseen ∧ t.name ≠ u.name := by
      simp [withoutName]
    have hreached (ht : t ∈ unseen) (htu : t.name ≠ u.name) :
        ReachesVia types unseen queue t.name ↔ _ :=
      reachesVia_iff_of_nextType? hnodup hnext ht htu
    rw [List.mem_cons, ih (nodup_withoutName hnodup), hmem]
    constructor
    · rintro (rfl | ⟨⟨ht, htu⟩, hpath⟩)
      · obtain ⟨ht, skipped, rfl, -⟩ := exists_eq_append_of_nextType? hnext
        exact ⟨ht, reachesVia_of_mem (by simp)⟩
      · exact ⟨ht, (hreached ht htu).2 hpath⟩
    · rintro ⟨ht, hpath⟩
      by_cases htu : t.name = u.name
      · exact .inl (eq_of_mem_of_name_eq hnodup ht (exists_eq_append_of_nextType? hnext).1 htu)
      · exact .inr ⟨⟨ht, htu⟩, (hreached ht htu).1 hpath⟩

/-- A walk meets no two types of one name. -/
lemma nodup_walk (hnodup : (unseen.map (·.name)).Nodup) :
    ((walk types unseen queue).map (·.name)).Nodup := by
  fun_induction walk types unseen queue with
  | case1 unseen queue hnone => simp
  | case2 unseen queue u rest hnext ih =>
    have hrest := nodup_withoutName (n := u.name) hnodup
    rw [List.map_cons, List.nodup_cons]
    refine ⟨?_, ih hrest⟩
    intro hmem
    obtain ⟨v, hv, hname⟩ := List.mem_map.1 hmem
    have hv := ((mem_walk_iff hrest).1 hv).1
    rw [withoutName, List.mem_filter] at hv
    simp [hname] at hv

end CanonicalSdl.Schema

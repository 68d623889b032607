import CanonicalSdl.Proofs.Schema.Closure
import Mathlib.Data.Prod.Lex

/-!
# Closures by work lists

A closure can be found with a list of names that are still to be looked at. Whichever of them is
taken next, and in whatever order new names join the list, this comes to an end, and the names that
have then been seen are those that can be reached. Hence nothing shows in a closure of the order of
its search, nor of the order of the names it begins with.
-/

namespace CanonicalSdl

open Relation (ReflTransGen)

namespace Schema

/-- The types are the closure of some names: the last types of the names that can be reached, each
once, ordered by key and then by name. -/
structure IsClosure (types : List TypeDefinition) (names : List String)
    (result : List TypeDefinition) : Prop where
  /-- No name occurs twice. -/
  nodup : (result.map (·.name)).Nodup
  /-- A type is the last one of a name that can be reached, other than that of a built-in scalar. -/
  mem_iff : ∀ t, t ∈ result ↔
    t.name ∉ builtinScalars ∧ last? types t.name = some t ∧ ReachedFrom types names t.name
  /-- Types are in canonical order, and in that of their names where keys are equal. -/
  sorted : result.Pairwise TypeDefinition.Precedes

/-! ### Searches -/

/-- How far a search has got: the names that have been seen, and those that are to be looked at. -/
structure Search where
  seen : List String
  queue : List String

namespace Search

/-- One turn of a search. Some name is taken from the queue. The name of a built-in scalar type and
one that has been seen are dropped. Others have then been seen, and the names that follow the name
join the queue; no name follows one for which there is no type. -/
inductive Turn (types : List TypeDefinition) : Search → Search → Prop where
  | drop {seen queue rest n} (pick : queue.Perm (n :: rest))
      (known : n ∈ builtinScalars ∨ n ∈ seen) : Turn types ⟨seen, queue⟩ ⟨seen, rest⟩
  | visit {seen queue rest n following} (pick : queue.Perm (n :: rest))
      (custom : n ∉ builtinScalars) (new : n ∉ seen)
      (join : ∀ m, m ∈ following ↔ Follows types n m) :
      Turn types ⟨seen, queue⟩ ⟨n :: seen, rest ++ following⟩

/-- The types of the names that have been seen, in canonical order. -/
def seenTypes (types : List TypeDefinition) (s : Search) : List TypeDefinition :=
  sortTypes (sortByBytes (fun t => Text.utf8 t.name) (s.seen.filterMap (last? types)))

/-- The number of types of the pool that have not been seen. -/
def unseen (types : List TypeDefinition) (s : Search) : Nat :=
  (types.filter (·.name ∉ s.seen)).length

/-- The name needs no further look: it is that of a built-in scalar type, it has been seen, or it is
in the queue. -/
def Covers (s : Search) (n : String) : Prop :=
  n ∈ builtinScalars ∨ n ∈ s.seen ∨ n ∈ s.queue

/-- What holds at each turn of a search that begins with some names. -/
structure IsSound (types : List TypeDefinition) (names : List String) (s : Search) : Prop where
  nodup : s.seen.Nodup
  custom : ∀ n ∈ s.seen, n ∉ builtinScalars
  seen : ∀ n ∈ s.seen, ReachedFrom types names n
  queue : ∀ n ∈ s.queue, ReachedFrom types names n
  covers_start : ∀ n ∈ names, s.Covers n
  covers_next : ∀ n ∈ s.seen, ∀ m, Follows types n m → s.Covers m

end Search

variable {types result : List TypeDefinition} {names : List String} {t : TypeDefinition}
  {n m : String}

/-! ### Closures -/

lemma isClosure_closure (types : List TypeDefinition) (names : List String) :
    IsClosure types names (closure types names) := by
  constructor
  case nodup => exact nodup_closure
  case mem_iff =>
    intro t
    exact mem_closure_iff
  case sorted => exact pairwise_closure

/-- There is only one closure of some names. -/
lemma isClosure_iff : IsClosure types names result ↔ result = closure types names := by
  constructor
  · intro h
    apply eq_of_pairwise_precedes h.sorted pairwise_closure h.nodup nodup_closure
    intro t
    rw [h.mem_iff, (isClosure_closure types names).mem_iff]
  · rintro rfl
    exact isClosure_closure types names

/-- The names that follow a name can be listed. -/
lemma exists_following (types : List TypeDefinition) (n : String) :
    ∃ following : List String, ∀ m, m ∈ following ↔ Follows types n m := by
  by_cases hcustom : n ∈ builtinScalars
  · exact ⟨[], fun m => iff_of_false List.not_mem_nil fun h => h.custom hcustom⟩
  cases hlast : last? types n with
  | none =>
    refine ⟨[], fun m => iff_of_false List.not_mem_nil fun h => ?_⟩
    obtain ⟨t, ht⟩ := h.exists_last
    simp [hlast] at ht
  | some t =>
    refine ⟨t.references ++ implementations types n, fun m => ?_⟩
    rw [follows_iff, List.mem_append]
    simp [hcustom, hlast]

lemma map_name_filterMap_last? (types : List TypeDefinition) (ns : List String) :
    (ns.filterMap (last? types)).map (·.name) = ns.filter fun n => (last? types n).isSome := by
  rw [List.map_filterMap, ← List.filterMap_eq_filter]
  congr 1
  funext n
  cases hlast : last? types n with
  | none => simp [Option.guard, hlast]
  | some t => simp [Option.guard, hlast, name_of_last? hlast]

/-! ### Searches come to an end -/

namespace Search

variable {s s' : Search}

/-- A search that has names to look at can go on, with the first of them for one. -/
lemma exists_turn (h : s.queue ≠ []) : ∃ s', Turn types s s' := by
  obtain ⟨seen, queue⟩ := s
  obtain ⟨n, rest, rfl⟩ := List.exists_cons_of_ne_nil h
  by_cases hknown : n ∈ builtinScalars ∨ n ∈ seen
  · exact ⟨_, .drop (.refl _) hknown⟩
  · rw [not_or] at hknown
    obtain ⟨following, hjoin⟩ := exists_following types n
    exact ⟨_, .visit (.refl _) hknown.1 hknown.2 hjoin⟩

/-- The types that are unseen after another name has been seen. -/
lemma sublist_unseen (types : List TypeDefinition) (seen : List String) (n : String) :
    (types.filter (·.name ∉ n :: seen)).Sublist (types.filter (·.name ∉ seen)) := by
  apply List.monotone_filter_right
  simp

/-- Fewer types are unseen after the name of one of them has been seen. -/
lemma length_unseen_lt {seen : List String} (hlast : last? types n = some t) (hnew : n ∉ seen) :
    (types.filter (·.name ∉ n :: seen)).length < (types.filter (·.name ∉ seen)).length := by
  have hsublist := sublist_unseen types seen n
  refine lt_of_le_of_ne hsublist.length_le fun heq => ?_
  have hunseen : t ∈ types.filter (·.name ∉ seen) := by
    simpa [mem_of_last? hlast, name_of_last? hlast] using hnew
  rw [← hsublist.eq_of_length heq] at hunseen
  simp [name_of_last? hlast] at hunseen

/-- A turn leaves fewer types unseen, or as many and a shorter queue. -/
lemma Turn.lex (h : Turn types s s') :
    Prod.Lex (· < ·) (· < ·) (s'.unseen types, s'.queue.length)
      (s.unseen types, s.queue.length) := by
  cases h with
  | drop pick => exact .right _ (by simp [pick.length_eq])
  | @visit seen queue rest n following pick custom new join =>
    cases hlast : last? types n with
    | some t => exact .left _ _ (length_unseen_lt hlast new)
    | none =>
      have hnothing : following = [] := by
        rw [List.eq_nil_iff_forall_not_mem]
        intro m hm
        obtain ⟨t, ht⟩ := ((join m).1 hm).exists_last
        simp [hlast] at ht
      subst hnothing
      rw [Prod.lex_iff]
      refine (sublist_unseen types seen n).length_le.lt_or_eq.imp_right fun heq => ⟨heq, ?_⟩
      simp [pick.length_eq]

/-- No search goes on for ever. -/
theorem wellFounded_turn (types : List TypeDefinition) : WellFounded (flip (Turn types)) :=
  Subrelation.wf Turn.lex
    (InvImage.wf (fun s : Search => (s.unseen types, s.queue.length))
      (WellFounded.prod_lex wellFounded_lt wellFounded_lt))

/-! ### What a search finds -/

/-- What needs no further look needs none after another turn. -/
lemma Turn.covers (h : Turn types s s') (hn : s.Covers n) : s'.Covers n := by
  cases h with
  | drop pick known =>
    rcases hn with hbuiltin | hseen | hqueue
    · exact .inl hbuiltin
    · exact .inr (.inl hseen)
    · rcases List.mem_cons.1 (pick.mem_iff.1 hqueue) with rfl | hrest
      · exact known.imp_right .inl
      · exact .inr (.inr hrest)
  | visit pick =>
    rcases hn with hbuiltin | hseen | hqueue
    · exact .inl hbuiltin
    · exact .inr (.inl (List.mem_cons_of_mem _ hseen))
    · rcases List.mem_cons.1 (pick.mem_iff.1 hqueue) with rfl | hrest
      · exact .inr (.inl List.mem_cons_self)
      · exact .inr (.inr (List.mem_append_left _ hrest))

/-- A search begins with nothing seen. -/
lemma isSound_start (types : List TypeDefinition) (names : List String) :
    IsSound types names ⟨[], names⟩ where
  nodup := List.nodup_nil
  custom := by simp
  seen := by simp
  queue := fun n hn => ⟨n, hn, .refl⟩
  covers_start := fun n hn => .inr (.inr hn)
  covers_next := by simp

namespace IsSound

variable (h : IsSound types names s)

include h

lemma turn (hturn : Turn types s s') : IsSound types names s' := by
  have hstart : ∀ n ∈ names, s'.Covers n := fun n hn => hturn.covers (h.covers_start n hn)
  have hnext : ∀ n ∈ s.seen, ∀ m, Follows types n m → s'.Covers m :=
    fun n hn m hm => hturn.covers (h.covers_next n hn m hm)
  cases hturn with
  | @drop seen queue rest n pick known =>
    have hqueue : ∀ m ∈ rest, ReachedFrom types names m := fun m hm =>
      h.queue m (pick.mem_iff.2 (List.mem_cons_of_mem _ hm))
    exact ⟨h.nodup, h.custom, h.seen, hqueue, hstart, hnext⟩
  | @visit seen queue rest n following pick custom new join =>
    have hn : ReachedFrom types names n := h.queue n (pick.mem_iff.2 List.mem_cons_self)
    constructor
    case nodup => exact List.nodup_cons.2 ⟨new, h.nodup⟩
    case custom => exact List.forall_mem_cons.2 ⟨custom, h.custom⟩
    case seen => exact List.forall_mem_cons.2 ⟨hn, h.seen⟩
    case queue =>
      intro m hm
      rcases List.mem_append.1 hm with hrest | hfollowing
      · exact h.queue m (pick.mem_iff.2 (List.mem_cons_of_mem _ hrest))
      · exact hn.next ((join m).1 hfollowing)
    case covers_start => exact hstart
    case covers_next =>
      refine List.forall_mem_cons.2 ⟨fun m hm => ?_, hnext⟩
      exact .inr (.inr (List.mem_append_right _ ((join m).2 hm)))

lemma run (hrun : ReflTransGen (Turn types) s s') : IsSound types names s' := by
  induction hrun with
  | refl => exact h
  | tail _ hturn ih => exact ih.turn hturn

/-- When no name is left to be looked at, the names that have been seen are those that are
reached. -/
lemma mem_seen_iff (hend : s.queue = []) :
    n ∈ s.seen ↔ n ∉ builtinScalars ∧ ReachedFrom types names n := by
  have hcovers {m : String} (hm : s.Covers m) (hcustom : m ∉ builtinScalars) : m ∈ s.seen := by
    rcases hm with hbuiltin | hseen | hqueue
    · contradiction
    · exact hseen
    · simp [hend] at hqueue
  constructor
  · exact fun hn => ⟨h.custom n hn, h.seen n hn⟩
  · rintro ⟨hcustom, a, ha, hpath⟩
    -- by induction on the path: what follows a name that has been seen is covered
    induction hpath with
    | refl => exact hcovers (h.covers_start a ha) hcustom
    | tail _ hstep ih => exact hcovers (h.covers_next _ (ih hstep.custom) _ hstep) hcustom

/-- Then their types are the closure of the names with which the search began. -/
lemma isClosure_seenTypes (hend : s.queue = []) : IsClosure types names (s.seenTypes types) := by
  have hperm : (s.seenTypes types).Perm (s.seen.filterMap (last? types)) :=
    (sortByBytes_perm _ _).trans (sortByBytes_perm _ _)
  constructor
  case nodup =>
    rw [(hperm.map _).nodup_iff, map_name_filterMap_last?]
    exact h.nodup.filter _
  case mem_iff =>
    intro t
    rw [hperm.mem_iff, List.mem_filterMap]
    constructor
    · rintro ⟨n, hn, hlast⟩
      obtain rfl := name_of_last? hlast
      obtain ⟨hcustom, hreached⟩ := (h.mem_seen_iff hend).1 hn
      exact ⟨hcustom, hlast, hreached⟩
    · rintro ⟨hcustom, hlast, hreached⟩
      exact ⟨t.name, (h.mem_seen_iff hend).2 ⟨hcustom, hreached⟩, hlast⟩
  case sorted => exact pairwise_sortByBytes_sortByBytes _ _ _

end IsSound

end Search

/-- The types that can be reached from given names are the one closure of these names, in whatever
order and however often they are given. A search for them never goes on for ever, ends only when no
name is left to be looked at, and has then found just these types, whichever names it took first. -/
theorem typesFrom_characterization (s : Schema) (names : List String) :
    (∀ result, IsClosure s.types names result ↔ result = s.typesFrom names) ∧
      (∀ names', (∀ n, n ∈ names' ↔ n ∈ names) → s.typesFrom names' = s.typesFrom names) ∧
      WellFounded (flip (Search.Turn s.types)) ∧
      (∀ search, search.queue ≠ [] → ∃ search', Search.Turn s.types search search') ∧
      ∀ search, ReflTransGen (Search.Turn s.types) ⟨[], names⟩ search → search.queue = [] →
        search.seenTypes s.types = s.typesFrom names := by
  refine ⟨fun result => isClosure_iff, fun names' hnames => ?_, Search.wellFounded_turn s.types,
    fun search => Search.exists_turn, fun search hrun hend => ?_⟩
  · apply closure_eq_of_mem_iff
    intro t
    simp only [mem_closure_iff, ReachedFrom, hnames]
  · exact isClosure_iff.1 (((Search.isSound_start s.types names).run hrun).isClosure_seenTypes hend)

end Schema

end CanonicalSdl

import CanonicalSdl.Document.Order
import Mathlib.Data.List.Basic

/-!
# Sorting by bytes

What sorting by bytes keeps because it is stable, and when its result does not depend on the order
of what is sorted.
-/

namespace CanonicalSdl

variable {α β : Type} {bytes : α → List UInt8} {l m : List α}

/-! ### The order of bytes -/

lemma isLE_compare_trans {x y z : List UInt8} (hxy : (compare x y).isLE = true)
    (hyz : (compare y z).isLE = true) : (compare x z).isLE = true :=
  Std.TransCmp.isLE_trans hxy hyz

lemma isLE_compare_total (x y : List UInt8) :
    ((compare x y).isLE || (compare y x).isLE) = true := by
  have swap : compare y x = (compare x y).swap := Std.OrientedCmp.eq_swap
  rw [swap]
  cases compare x y <;> rfl

lemma eq_of_isLE_compare {x y : List UInt8} (hxy : (compare x y).isLE = true)
    (hyx : (compare y x).isLE = true) : x = y := by
  have swap : compare y x = (compare x y).swap := Std.OrientedCmp.eq_swap
  rw [swap] at hyx
  apply Std.LawfulEqOrd.eq_of_compare
  cases h : compare x y with
  | lt => simp [h] at hyx
  | eq => rfl
  | gt => simp [h] at hxy

/-! ### Stability -/

/-- What is in order already stays in its order. -/
lemma sublist_sortByBytes (hm : m.Pairwise fun a b => (compare (bytes a) (bytes b)).isLE)
    (h : m.Sublist l) : m.Sublist (sortByBytes bytes l) := by
  refine List.sublist_mergeSort ?_ ?_ hm h
  · exact fun _ _ _ hab hbc => isLE_compare_trans hab hbc
  · exact fun a b => isLE_compare_total (bytes a) (bytes b)

lemma sortByBytes_of_pairwise (h : l.Pairwise fun a b => (compare (bytes a) (bytes b)).isLE) :
    sortByBytes bytes l = l :=
  List.mergeSort_of_pairwise h

lemma sortByBytes_sortByBytes (bytes : α → List UInt8) (l : List α) :
    sortByBytes bytes (sortByBytes bytes l) = sortByBytes bytes l :=
  sortByBytes_of_pairwise (pairwise_sortByBytes bytes l)

lemma mem_sortByBytes {a : α} : a ∈ sortByBytes bytes l ↔ a ∈ l :=
  (sortByBytes_perm bytes l).mem_iff

/-- It makes no difference whether items are changed before sorting or after, as long as they keep
their keys. -/
lemma map_sortByBytes {f : α → α} (h : ∀ a ∈ l, bytes (f a) = bytes a) :
    (sortByBytes bytes l).map f = sortByBytes bytes (l.map f) :=
  List.map_mergeSort fun a ha b hb => by rw [h a ha, h b hb]

/-- Items with equal keys keep their order. -/
lemma filter_sortByBytes {p : α → Bool}
    (h : ∀ a ∈ l, ∀ b ∈ l, p a = true → p b = true → bytes a = bytes b) :
    (sortByBytes bytes l).filter p = l.filter p := by
  have hpairwise : (l.filter p).Pairwise fun a b => (compare (bytes a) (bytes b)).isLE := by
    apply List.pairwise_of_forall_mem_list
    intro a ha b hb
    rw [List.mem_filter] at ha hb
    rw [h a ha.1 b hb.1 ha.2 hb.2, Std.ReflOrd.compare_self]
    rfl
  have hsublist := (sublist_sortByBytes hpairwise List.filter_sublist).filter p
  rw [List.filter_filter, show (fun a => p a && p a) = p by simp] at hsublist
  exact (hsublist.eq_of_length ((sortByBytes_perm bytes l).filter p).length_eq.symm).symm

lemma filterMap_sortByBytes {g : α → Option β}
    (h : ∀ a ∈ l, ∀ b ∈ l, (g a).isSome = true → (g b).isSome = true → bytes a = bytes b) :
    (sortByBytes bytes l).filterMap g = l.filterMap g := by
  have hfilter (as : List α) : as.filterMap g = (as.filter fun a => (g a).isSome).filterMap g := by
    induction as with
    | nil => rfl
    | cons a as ih => cases ha : g a <;> simp [ha, ih]
  rw [hfilter, filter_sortByBytes h, ← hfilter]

/-! ### Independence of the order -/

/-- If distinct items have distinct keys, sorting does not depend on the order of the items. -/
lemma sortByBytes_eq_of_perm (h : l.Perm m) (hinj : ∀ a ∈ l, ∀ b ∈ l, bytes a = bytes b → a = b) :
    sortByBytes bytes l = sortByBytes bytes m := by
  have hperm := (sortByBytes_perm bytes l).trans (h.trans (sortByBytes_perm bytes m).symm)
  refine hperm.eq_of_pairwise (fun a b ha hb hab hba => ?_)
    (pairwise_sortByBytes bytes l) (pairwise_sortByBytes bytes m)
  exact hinj a (mem_sortByBytes.1 ha) b (h.mem_iff.2 (mem_sortByBytes.1 hb))
    (eq_of_isLE_compare hab hba)

/-- A list that is sorted by one key and then by another is ordered by the second, and where this
does not tell two items apart, by the first. -/
lemma pairwise_sortByBytes_sortByBytes (first second : α → List UInt8) (l : List α) :
    (sortByBytes second (sortByBytes first l)).Pairwise fun a b =>
      (compare (second a) (second b)).isLE = true ∧
        (second a = second b → (compare (first a) (first b)).isLE = true) := by
  apply List.pairwise_of_forall_sublist
  intro a b hab
  constructor
  · exact (pairwise_sortByBytes second (sortByBytes first l)).forall_sublist hab
  · intro heq
    let sameKey (c : α) : Bool := second c = second a
    have hclass : (sortByBytes second (sortByBytes first l)).filter sameKey =
        (sortByBytes first l).filter sameKey :=
      filter_sortByBytes fun c _ d _ hc hd => by simp_all [sameKey]
    have hpair : [a, b].filter sameKey = [a, b] := by simp [sameKey, heq]
    have hfirst := hab.filter sameKey
    rw [hpair, hclass] at hfirst
    exact (pairwise_sortByBytes first l).forall_sublist (hfirst.trans List.filter_sublist)

end CanonicalSdl

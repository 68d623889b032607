import CanonicalSdl.Proofs.Document.Sorting
import CanonicalSdl.Proofs.Text.Utf8

/-!
# Stable sorts

What it is for a list to be another one sorted by texts. There is only one such list: the order of
the texts settles how items with different texts stand to each other, and stability how items with
one text do.
-/

namespace CanonicalSdl

variable {α : Type} {text : α → String} {a b : α} {l m m' : List α}

/-- The bytes of the text of the first item do not come after those of the second. -/
def TextLE (text : α → String) (a b : α) : Prop :=
  (compare (Text.utf8 (text a)) (Text.utf8 (text b))).isLE = true

instance : DecidableRel (TextLE text) :=
  fun _ _ => inferInstanceAs (Decidable (_ = true))

/-- The second list is the first one, sorted by the text that is given for each item. -/
structure IsStableSort (text : α → String) (l m : List α) : Prop where
  /-- Each item occurs as often as it did. -/
  perm : m.Perm l
  /-- The texts are in the order of their bytes. -/
  sorted : m.Pairwise (TextLE text)
  /-- Items with one text are in the order they had. -/
  stable : ∀ s, m.filter (text · == s) = l.filter (text · == s)

/-! ### Uniqueness -/

lemma TextLE.text_eq (h : TextLE text a b) (h' : TextLE text b a) : text a = text b :=
  Text.utf8_injective (eq_of_isLE_compare h h')

/-- The first items of two sorted lists with the same items have one text. -/
lemma text_eq_of_pairwise_cons (hl : (a :: l).Pairwise (TextLE text))
    (hm : (b :: m).Pairwise (TextLE text)) (ha : a ∈ b :: m) (hb : b ∈ a :: l) :
    text a = text b := by
  rcases List.mem_cons.1 ha with rfl | ha
  · rfl
  rcases List.mem_cons.1 hb with rfl | hb
  · rfl
  exact (List.rel_of_pairwise_cons hl hb).text_eq (List.rel_of_pairwise_cons hm ha)

lemma mem_iff_of_filter_text_eq (h : ∀ s, l.filter (text · == s) = m.filter (text · == s)) :
    a ∈ l ↔ a ∈ m := by
  have hfilter (as : List α) : a ∈ as ↔ a ∈ as.filter (text · == text a) := by simp
  rw [hfilter, h, ← hfilter]

/-- Two sorted lists are the same if they have, for each text, the same sequence of items. -/
lemma eq_of_filter_text_eq (hl : l.Pairwise (TextLE text)) (hm : m.Pairwise (TextLE text))
    (h : ∀ s, l.filter (text · == s) = m.filter (text · == s)) : l = m := by
  induction l generalizing m with
  | nil =>
    cases m with
    | nil => rfl
    | cons b m => simpa using h (text b)
  | cons a l ih =>
    cases m with
    | nil => simpa using h (text a)
    | cons b m =>
      have hab : text a = text b := text_eq_of_pairwise_cons hl hm
        ((mem_iff_of_filter_text_eq h).1 List.mem_cons_self)
        ((mem_iff_of_filter_text_eq h).2 List.mem_cons_self)
      -- both are the first item with their text
      obtain rfl : a = b := by
        have hfirst := h (text a)
        rw [List.filter_cons_of_pos (by simp), List.filter_cons_of_pos (by simp [hab])] at hfirst
        exact (List.cons.inj hfirst).1
      have hrest (s : String) : l.filter (text · == s) = m.filter (text · == s) := by
        have hs := h s
        rw [List.filter_cons, List.filter_cons] at hs
        split at hs
        · exact (List.cons.inj hs).2
        · exact hs
      rw [ih hl.of_cons hm.of_cons hrest]

lemma IsStableSort.unique (h : IsStableSort text l m) (h' : IsStableSort text l m') : m = m' :=
  eq_of_filter_text_eq h.sorted h'.sorted fun s => (h.stable s).trans (h'.stable s).symm

/-! ### Sorting by bytes -/

lemma isStableSort_sortByBytes (text : α → String) (l : List α) :
    IsStableSort text l (sortByBytes (fun a => Text.utf8 (text a)) l) := by
  constructor
  case perm => exact sortByBytes_perm _ l
  case sorted => exact pairwise_sortByBytes _ l
  case stable =>
    intro s
    apply filter_sortByBytes
    intro a _ b _ ha hb
    rw [eq_of_beq ha, eq_of_beq hb]

/-- Sorting gives the one list that is a stable sort. -/
theorem isStableSort_iff :
    IsStableSort text l m ↔ m = sortByBytes (fun a => Text.utf8 (text a)) l := by
  constructor
  · exact fun h => h.unique (isStableSort_sortByBytes text l)
  · rintro rfl
    exact isStableSort_sortByBytes text l

lemma IsStableSort.filter (h : IsStableSort text l m) (p : α → Bool) :
    IsStableSort text (l.filter p) (m.filter p) := by
  constructor
  case perm => exact h.perm.filter p
  case sorted => exact h.sorted.filter p
  case stable =>
    intro s
    rw [List.filter_comm, h.stable, List.filter_comm]

/-- What has been sorted before may be sorted again together with what follows it. -/
lemma IsStableSort.append {l' : List α} (hl : IsStableSort text l l')
    (h : IsStableSort text (l' ++ m) m') : IsStableSort text (l ++ m) m' := by
  constructor
  case perm => exact h.perm.trans (hl.perm.append_right m)
  case sorted => exact h.sorted
  case stable =>
    intro s
    rw [h.stable, List.filter_append, List.filter_append, hl.stable]

/-- It makes no difference whether items are left out before sorting or after. -/
lemma filter_sortByBytes_utf8 (text : α → String) (p : α → Bool) (l : List α) :
    (sortByBytes (fun a => Text.utf8 (text a)) l).filter p =
      sortByBytes (fun a => Text.utf8 (text a)) (l.filter p) :=
  isStableSort_iff.1 ((isStableSort_sortByBytes text l).filter p)

end CanonicalSdl

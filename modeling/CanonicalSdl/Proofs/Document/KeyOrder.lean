import CanonicalSdl.Proofs.Document.NormalForm

/-!
# The order of keys

Keys are compared byte by byte, first the letters and then the names, without putting the two
together. Still they compare as the texts of letters and names do, by their bytes as well as by
their code points. Hence the canonical order is total and transitive, and definitions stand on a
level exactly if their keys have one text.

Types on a level have one name and one letter, or none has a letter. The only other way is that the
name of an interface, enum or union type begins with the letter of the other type, and goes on with
its name.
-/

namespace CanonicalSdl

namespace OrderKey

/-! ### Comparing byte by byte -/

section Bytes

/-- Takes a byte from two sequences that follow each other: from the first one, and if this is used
up, from the second. -/
def takeByte? : List UInt8 × List UInt8 → Option (UInt8 × List UInt8 × List UInt8)
  | (b :: bs, cs) => some (b, bs, cs)
  | ([], c :: cs) => some (c, [], cs)
  | ([], []) => none

variable {k l rest : List UInt8 × List UInt8} {b : UInt8}

lemma append_of_takeByte? (h : takeByte? k = some (b, rest)) :
    k.1 ++ k.2 = b :: (rest.1 ++ rest.2) := by
  fun_cases takeByte? k with
  | case1 b bs cs => cases h; rfl
  | case2 c cs => cases h; rfl
  | case3 => cases h

lemma append_of_takeByte?_eq_none (h : takeByte? k = none) : k.1 ++ k.2 = [] := by
  fun_cases takeByte? k with
  | case1 b bs cs => cases h
  | case2 c cs => cases h
  | case3 => rfl

/-- Compares byte by byte, up to the first difference, two sequences that follow each other with two
others. -/
def compareInTurn (k l : List UInt8 × List UInt8) : Ordering :=
  match _ : takeByte? k, takeByte? l with
  | none, none => .eq
  | none, some _ => .lt
  | some _, none => .gt
  | some (b, k), some (c, l) => (compare b c).then (compareInTurn k l)
termination_by (k.1 ++ k.2).length
decreasing_by simp [append_of_takeByte? ‹_›]

/-- It makes no difference where the second sequence takes over from the first one. -/
lemma compareInTurn_eq (k l : List UInt8 × List UInt8) :
    compareInTurn k l = compare (k.1 ++ k.2) (l.1 ++ l.2) := by
  -- by induction on the turns, in each of which both sides lose one byte
  fun_induction compareInTurn k l with
  | case1 k l hk hl =>
    rw [append_of_takeByte?_eq_none hk, append_of_takeByte?_eq_none hl]
    rfl
  | case2 k l next hk hl =>
    rw [append_of_takeByte?_eq_none hk, append_of_takeByte? hl]
    rfl
  | case3 k l next hk hl =>
    rw [append_of_takeByte? hk, append_of_takeByte?_eq_none hl]
    rfl
  | case4 k l b k' c l' hk hl ih =>
    rw [append_of_takeByte? hk, append_of_takeByte? hl, List.compare_cons_cons, ih]

end Bytes

/-! ### Comparing texts -/

/-- The text of a key: its letter, followed by its name. -/
def text (k : OrderKey) : String :=
  k.kind ++ k.name

/-- Compares keys without putting letters and names together. -/
def compareBytewise (k l : OrderKey) : Ordering :=
  compareInTurn (Text.utf8 k.kind, Text.utf8 k.name) (Text.utf8 l.kind, Text.utf8 l.name)

variable (k l : OrderKey)

lemma compare_eq_compareBytewise : compare k l = compareBytewise k l := by
  rw [compareBytewise, compareInTurn_eq]
  rfl

lemma bytes_eq_utf8 : k.bytes = Text.utf8 k.text :=
  (Text.utf8_append k.kind k.name).symm

lemma compare_eq_compare_utf8 :
    compare k l = compare (Text.utf8 k.text) (Text.utf8 l.text) := by
  rw [← bytes_eq_utf8, ← bytes_eq_utf8]
  rfl

lemma compare_eq_eq_iff : compare k l = .eq ↔ k.text = l.text := by
  rw [compare_eq_compare_utf8, Std.LawfulEqOrd.compare_eq_iff_eq, Text.utf8_injective.eq_iff]

end OrderKey

/-! ### Types on a level -/

/-- The kind of the type has a letter. -/
inductive TypeBody.HasLetter : TypeBody → String → Prop where
  | scalar : HasLetter .scalar "c"
  | input (fields) : HasLetter (.input fields) "d"
  | object (interfaces fields) : HasLetter (.object interfaces fields) "e"

/-- The kind of the type has no letter. -/
inductive TypeBody.IsUnlettered : TypeBody → Prop where
  | interface (interfaces fields) : IsUnlettered (.interface interfaces fields)
  | enum (values) : IsUnlettered (.enum values)
  | union (members) : IsUnlettered (.union members)

/-- The two types stand on a level in the canonical order. -/
inductive TypeDefinition.Ties (t u : TypeDefinition) : Prop where
  /-- They have one name and one letter. -/
  | lettered {letter} (left : t.body.HasLetter letter) (right : u.body.HasLetter letter)
      (name : t.name = u.name)
  /-- They have one name, and none has a letter. -/
  | unlettered (left : t.body.IsUnlettered) (right : u.body.IsUnlettered) (name : t.name = u.name)
  /-- The letter and the name of the second type make up the name of the first one. -/
  | leftSpells {letter} (left : t.body.IsUnlettered) (right : u.body.HasLetter letter)
      (name : t.name = letter ++ u.name)
  /-- The letter and the name of the first type make up the name of the second one. -/
  | rightSpells {letter} (left : t.body.HasLetter letter) (right : u.body.IsUnlettered)
      (name : u.name = letter ++ t.name)

namespace TypeBody

variable {body body' : TypeBody} {letter letter' s s' : String}

lemma hasLetter_or_isUnlettered (body : TypeBody) :
    (∃ letter, body.HasLetter letter) ∨ body.IsUnlettered := by
  cases body with
  | scalar => exact .inl ⟨_, .scalar⟩
  | input fields => exact .inl ⟨_, .input fields⟩
  | object interfaces fields => exact .inl ⟨_, .object interfaces fields⟩
  | interface interfaces fields => exact .inr (.interface interfaces fields)
  | enum values => exact .inr (.enum values)
  | union members => exact .inr (.union members)

lemma HasLetter.orderLetter_eq (h : body.HasLetter letter) : body.orderLetter = letter := by
  cases h <;> rfl

lemma IsUnlettered.orderLetter_eq (h : body.IsUnlettered) : body.orderLetter = "" := by
  cases h <;> rfl

lemma HasLetter.length_toList (h : body.HasLetter letter) : letter.toList.length = 1 := by
  cases h <;> rfl

/-- A letter can be told from what follows it. -/
lemma HasLetter.append_eq_append_iff (h : body.HasLetter letter) (h' : body'.HasLetter letter') :
    letter ++ s = letter' ++ s' ↔ letter = letter' ∧ s = s' := by
  constructor
  · intro heq
    rw [← String.toList_inj, String.toList_append, String.toList_append] at heq
    obtain ⟨hletter, hs⟩ := List.append_inj heq (h.length_toList.trans h'.length_toList.symm)
    exact ⟨String.toList_inj.1 hletter, String.toList_inj.1 hs⟩
  · rintro ⟨rfl, rfl⟩
    rfl

end TypeBody

namespace TypeDefinition

variable {t u : TypeDefinition} {letter letter' : String}

lemma text_orderKey_of_hasLetter (h : t.body.HasLetter letter) :
    t.orderKey.text = letter ++ t.name := by
  rw [OrderKey.text, orderKey, h.orderLetter_eq]

lemma text_orderKey_of_isUnlettered (h : t.body.IsUnlettered) : t.orderKey.text = t.name := by
  rw [OrderKey.text, orderKey, h.orderLetter_eq, String.empty_append]

/-- A letter in front of a name is lost in the text of a key only where the other type has none. -/
lemma text_orderKey_eq_iff : t.orderKey.text = u.orderKey.text ↔ t.Ties u := by
  constructor
  · -- a letter is one character, so that two letters or none can be taken off alike
    intro h
    rcases t.body.hasLetter_or_isUnlettered with ⟨letter, ht⟩ | ht
    · rw [text_orderKey_of_hasLetter ht] at h
      rcases u.body.hasLetter_or_isUnlettered with ⟨letter', hu⟩ | hu
      · rw [text_orderKey_of_hasLetter hu, ht.append_eq_append_iff hu] at h
        obtain ⟨rfl, hname⟩ := h
        exact .lettered ht hu hname
      · rw [text_orderKey_of_isUnlettered hu] at h
        exact .rightSpells ht hu h.symm
    · rw [text_orderKey_of_isUnlettered ht] at h
      rcases u.body.hasLetter_or_isUnlettered with ⟨letter, hu⟩ | hu
      · rw [text_orderKey_of_hasLetter hu] at h
        exact .leftSpells ht hu h
      · rw [text_orderKey_of_isUnlettered hu] at h
        exact .unlettered ht hu h
  · intro h
    cases h with
    | lettered ht hu name =>
      rw [text_orderKey_of_hasLetter ht, text_orderKey_of_hasLetter hu, name]
    | unlettered ht hu name =>
      rw [text_orderKey_of_isUnlettered ht, text_orderKey_of_isUnlettered hu, name]
    | leftSpells ht hu name =>
      rw [text_orderKey_of_isUnlettered ht, text_orderKey_of_hasLetter hu, name]
    | rightSpells ht hu name =>
      rw [text_orderKey_of_hasLetter ht, text_orderKey_of_isUnlettered hu, name]

lemma compare_eq_eq_iff : t.compare u = .eq ↔ t.Ties u :=
  (OrderKey.compare_eq_eq_iff t.orderKey u.orderKey).trans text_orderKey_eq_iff

/-- Types with different letters are never on a level. -/
lemma compare_ne_eq (ht : t.body.HasLetter letter) (hu : u.body.HasLetter letter')
    (hne : letter ≠ letter') : t.compare u ≠ .eq := by
  rw [compare, Ne, OrderKey.compare_eq_eq_iff, text_orderKey_of_hasLetter ht,
    text_orderKey_of_hasLetter hu, ht.append_eq_append_iff hu]
  exact fun h => hne h.1

end TypeDefinition

/-! ### The canonical order -/

namespace Definition

/-- The canonical order of definitions. -/
def compare (a b : Definition) : Ordering :=
  Ord.compare a.orderKey b.orderKey

/-- The comparison orders definitions by the texts of their keys. -/
structure IsCanonicalOrder (cmp : Definition → Definition → Ordering) : Prop where
  /-- Normal forms are sorted by the comparison. -/
  normal_eq : ∀ d : Document,
    d.normal = ⟨(d.definitions.map normal).mergeSort fun a b => (cmp a b).isLE⟩
  bytewise : ∀ a b, cmp a b = a.orderKey.compareBytewise b.orderKey
  bytes : ∀ a b, cmp a b =
    Ord.compare a.orderKey.text.toUTF8.data.toList b.orderKey.text.toUTF8.data.toList
  codePoints : ∀ a b, cmp a b =
    Ord.compare (Text.codePoints a.orderKey.text) (Text.codePoints b.orderKey.text)
  swap : ∀ a b, cmp b a = (cmp a b).swap
  total : ∀ a b, (cmp a b).isLE = true ∨ (cmp b a).isLE = true
  trans : ∀ a b c, (cmp a b).isLE = true → (cmp b c).isLE = true → (cmp a c).isLE = true
  antisymm : ∀ a b, (cmp a b).isLE = true → (cmp b a).isLE = true →
    a.orderKey.text = b.orderKey.text
  eq_iff : ∀ a b, cmp a b = .eq ↔ a.orderKey.text = b.orderKey.text
  type : ∀ t u, cmp (.type t) (.type u) = t.compare u
  ties : ∀ t u : TypeDefinition, t.compare u = .eq ↔ t.Ties u
  /-- Types of two kinds with letters are not on a level. -/
  apart : ∀ (t u : TypeDefinition) (letter letter' : String),
    t.body.HasLetter letter → u.body.HasLetter letter' → letter ≠ letter' → t.compare u ≠ .eq

/-- Definitions are ordered by the texts of their keys. -/
theorem isCanonicalOrder_compare : IsCanonicalOrder compare where
  normal_eq d := rfl
  bytewise a b := OrderKey.compare_eq_compareBytewise _ _
  bytes a b := by
    rw [← Text.utf8_eq_toUTF8, ← Text.utf8_eq_toUTF8]
    exact OrderKey.compare_eq_compare_utf8 _ _
  codePoints a b := by
    rw [← Text.compare_utf8_eq_compare_codePoints]
    exact OrderKey.compare_eq_compare_utf8 _ _
  swap a b := Std.OrientedOrd.eq_swap (a := b.orderKey.bytes) (b := a.orderKey.bytes)
  total a b := by
    rw [← Bool.or_eq_true]
    exact isLE_compare_total a.orderKey.bytes b.orderKey.bytes
  trans a b c := isLE_compare_trans
  antisymm a b hab hba := by
    apply Text.utf8_injective
    rw [← OrderKey.bytes_eq_utf8, ← OrderKey.bytes_eq_utf8]
    exact eq_of_isLE_compare hab hba
  eq_iff a b := OrderKey.compare_eq_eq_iff _ _
  type t u := rfl
  ties t u := TypeDefinition.compare_eq_eq_iff
  apart t u letter letter' := TypeDefinition.compare_ne_eq

example : compare (.type { name := "zz", body := .scalar })
    (.type { name := "czz", body := .interface [] [] }) = .eq := by decide

end Definition

end CanonicalSdl

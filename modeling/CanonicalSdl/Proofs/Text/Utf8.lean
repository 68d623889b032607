import CanonicalSdl.Document.Order
import Mathlib.Data.List.Basic

/-!
# The order of UTF-8 bytes

Texts are ordered by their bytes as they are by their characters, that is by their code points. In
particular no two texts have the same bytes.
-/

namespace CanonicalSdl.Text

open String (utf8EncodeChar)

variable {c d : Char} {xs ys zs : List UInt8}

lemma compare_ofNat_cons {m n : Nat} (hm : m < 256) (hn : n < 256) :
    compare (UInt8.ofNat m :: xs) (UInt8.ofNat n :: ys) =
      (compare m n).then (compare xs ys) := by
  have hbyte : compare (UInt8.ofNat m) (UInt8.ofNat n) = compare m n := by
    change compareOfLessAndEq (UInt8.ofNat m) (UInt8.ofNat n) = compareOfLessAndEq m n
    simp only [compareOfLessAndEq, UInt8.lt_iff_toNat_lt, ← UInt8.toNat_inj, UInt8.toNat_ofNat',
      Nat.mod_eq_of_lt hm, Nat.mod_eq_of_lt hn]
  rw [List.compare_cons_cons, hbyte]

/-- The bytes of the smaller of two characters come first, whatever follows them. -/
lemma compare_utf8EncodeChar_append (h : c < d) :
    compare (utf8EncodeChar c ++ xs) (utf8EncodeChar d ++ ys) = .lt := by
  -- the bytes hold the digits of a code point to the base 64
  have second (n : Nat) : n / 4096 = n / 64 / 64 := by rw [Nat.div_div_eq_div_mul]
  have third (n : Nat) : n / 262144 = n / 64 / 64 / 64 := by simp only [Nat.div_div_eq_div_mul]
  have hd : d.val.toNat < 0x110000 := by
    rcases d.valid with h | h
    · exact Nat.lt_trans h (by decide)
    · exact h.2
  rw [Char.lt_def, UInt32.lt_iff_toNat_lt] at h
  simp only [utf8EncodeChar, second, third]
  split_ifs
  all_goals
    simp (disch := omega) only [List.cons_append, List.nil_append, compare_ofNat_cons,
      Ordering.then_eq_lt, Nat.compare_eq_lt, Nat.compare_eq_eq]
    omega

lemma compare_append_left (xs : List UInt8) : compare (xs ++ ys) (xs ++ zs) = compare ys zs := by
  induction xs with
  | nil => rfl
  | cons x xs ih =>
    rw [List.cons_append, List.cons_append, List.compare_cons_cons, Std.ReflOrd.compare_self, ih]
    rfl

/-- Texts compare by their bytes as by their characters. -/
lemma compare_flatMap_utf8EncodeChar (cs ds : List Char) :
    compare (cs.flatMap utf8EncodeChar) (ds.flatMap utf8EncodeChar) = compare cs ds := by
  induction cs generalizing ds with
  | nil =>
    cases ds with
    | nil => rfl
    | cons d ds =>
      rw [List.flatMap_cons, List.compare_nil_cons]
      cases hd : utf8EncodeChar d with
      | nil => exact absurd hd (String.utf8EncodeChar_ne_nil)
      | cons b bs => rfl
  | cons c cs ih =>
    cases ds with
    | nil =>
      rw [List.flatMap_cons, List.compare_cons_nil]
      cases hc : utf8EncodeChar c with
      | nil => exact absurd hc (String.utf8EncodeChar_ne_nil)
      | cons b bs => rfl
    | cons d ds =>
      rw [List.flatMap_cons, List.flatMap_cons, List.compare_cons_cons]
      rcases Std.lt_trichotomy c d with h | rfl | h
      · have hcd : compare c d = .lt := compareOfLessAndEq_eq_lt.2 h
        rw [compare_utf8EncodeChar_append h, hcd]
        rfl
      · rw [compare_append_left, Std.ReflOrd.compare_self, ih]
        rfl
      · have hcd : compare d c = .lt := compareOfLessAndEq_eq_lt.2 h
        rw [Std.OrientedOrd.eq_swap, compare_utf8EncodeChar_append h,
          Std.OrientedOrd.eq_swap (a := c), hcd]
        rfl

lemma compare_toNat (c d : Char) : compare c.toNat d.toNat = compare c d := by
  change compareOfLessAndEq c.toNat d.toNat = compareOfLessAndEq c d
  simp only [compareOfLessAndEq, Char.toNat_inj, Char.lt_def, UInt32.lt_iff_toNat_lt]
  rfl

lemma compare_map_toNat (cs ds : List Char) :
    compare (cs.map Char.toNat) (ds.map Char.toNat) = compare cs ds := by
  induction cs generalizing ds with
  | nil => cases ds <;> rfl
  | cons c cs ih =>
    cases ds with
    | nil => rfl
    | cons d ds =>
      rw [List.map_cons, List.map_cons, List.compare_cons_cons, compare_toNat, ih,
        ← List.compare_cons_cons]

/-- The code points of a text. -/
def codePoints (s : String) : List Nat :=
  s.toList.map Char.toNat

/-- Texts compare by their bytes as by their code points. -/
lemma compare_utf8_eq_compare_codePoints (s t : String) :
    compare (utf8 s) (utf8 t) = compare (codePoints s) (codePoints t) := by
  rw [utf8, utf8, compare_flatMap_utf8EncodeChar, codePoints, codePoints, compare_map_toNat]

/-- The bytes of a text are those as which it is stored. -/
lemma utf8_eq_toUTF8 (s : String) : utf8 s = s.toUTF8.data.toList := by
  rw [String.toUTF8_eq_toByteArray, ← String.utf8Encode_toList, List.utf8Encode,
    List.data_toByteArray, utf8]

lemma compare_eq_lt_iff (cs ds : List Char) : compare cs ds = .lt ↔ cs < ds := by
  induction cs generalizing ds with
  | nil => cases ds <;> simp
  | cons c cs ih =>
    cases ds with
    | nil => simp
    | cons d ds =>
      have hlt : compare c d = .lt ↔ c < d := compareOfLessAndEq_eq_lt
      rw [List.compare_cons_cons, Ordering.then_eq_lt, List.cons_lt_cons_iff, ih, hlt,
        Std.LawfulEqOrd.compare_eq_iff_eq]

/-- The bytes of one text come before those of another exactly if its characters do. -/
theorem compare_utf8_eq_lt_iff (s t : String) : compare (utf8 s) (utf8 t) = .lt ↔ s < t := by
  rw [utf8, utf8, compare_flatMap_utf8EncodeChar, compare_eq_lt_iff, String.lt_iff]

/-- Texts with the same bytes are the same. -/
theorem utf8_injective : Function.Injective utf8 := by
  intro s t h
  have hcompare := compare_flatMap_utf8EncodeChar s.toList t.toList
  rw [← utf8, ← utf8, h, Std.ReflOrd.compare_self] at hcompare
  exact String.toList_inj.1 (Std.LawfulEqOrd.eq_of_compare hcompare.symm)

end CanonicalSdl.Text

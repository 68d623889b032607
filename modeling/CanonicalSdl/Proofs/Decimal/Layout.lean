import CanonicalSdl.Decimal.Layout
import Mathlib.Algebra.Group.Nat.Defs
import Mathlib.Data.List.Basic
import Mathlib.Data.List.TakeWhile

/-!
# Digits and layouts

The digits of a decimal number, with the zeros that were left out after them, are those of its
significand. Whatever its layout, the text of a number holds only letters and digits besides the
sign and the point.
-/

namespace CanonicalSdl

variable {c : Char} {n : Nat}

namespace Decimal

/-! ### Digits -/

/-- Only zero is written with a leading zero. -/
lemma head?_toDigits_ne_zero (hn : 0 < n) : (Nat.toDigits 10 n).head? ≠ some '0' := by
  induction n using Nat.strongRecOn with
  | ind n ih =>
    rcases Nat.lt_or_ge n 10 with h | h
    · rw [Nat.toDigits_of_lt_base h]
      exact (by decide : ∀ n < 10, 0 < n → [n.digitChar].head? ≠ some '0') n h hn
    · rw [Nat.toDigits_of_base_le (by decide) h, List.head?_append_of_ne_nil _ Nat.toDigits_ne_nil]
      exact ih (n / 10) (by omega) (by omega)

lemma isDigit_of_mem_toDigits (h : c ∈ Nat.toDigits 10 n) : c.isDigit = true :=
  Nat.isDigit_of_mem_toDigits (by decide) (by decide) h

variable {d : Decimal}

/-- The digits are those of the significand up to its trailing zeros. -/
lemma exists_toDigits_eq (d : Decimal) :
    ∃ zeros, Nat.toDigits 10 d.significand = d.digits ++ List.replicate zeros '0' := by
  let reversed := (Nat.toDigits 10 d.significand).reverse
  have hzeros : (reversed.takeWhile (· == '0')).reverse =
      List.replicate (reversed.takeWhile (· == '0')).length '0' := by
    rw [List.eq_replicate_iff]
    refine ⟨List.length_reverse, fun c hc => ?_⟩
    simpa using List.mem_takeWhile_imp (List.mem_reverse.1 hc)
  refine ⟨(reversed.takeWhile (· == '0')).length, ?_⟩
  rw [← hzeros, digits, ← List.reverse_append, List.takeWhile_append_dropWhile,
    List.reverse_reverse]

lemma isDigit_of_mem_digits (h : c ∈ d.digits) : c.isDigit = true := by
  obtain ⟨zeros, hzeros⟩ := exists_toDigits_eq d
  exact isDigit_of_mem_toDigits (n := d.significand) (by simp [hzeros, h])

/-- The digits of a positive number do not begin with a zero. -/
lemma exists_digits_eq_cons (h : 0 < d.significand) : ∃ c cs, d.digits = c :: cs ∧ c ≠ '0' := by
  obtain ⟨zeros, hzeros⟩ := exists_toDigits_eq d
  have hhead := head?_toDigits_ne_zero h
  rw [hzeros] at hhead
  cases hd : d.digits with
  | nil =>
    rw [hd, List.nil_append] at hzeros hhead
    cases zeros with
    | zero => exact absurd hzeros Nat.toDigits_ne_nil
    | succ zeros => simp [List.replicate_succ] at hhead
  | cons c cs => exact ⟨c, cs, rfl, by simpa [hd] using hhead⟩

/-! ### Values of digits -/

lemma valueOf_append (xs ys : List Char) :
    valueOf (xs ++ ys) = 10 ^ ys.length * valueOf xs + valueOf ys := by
  rw [valueOf, Nat.ofDigitChars_append, Nat.ofDigitChars_eq_ofDigitChars_zero]
  rfl

lemma valueOf_replicate_zero (n : Nat) : valueOf (List.replicate n '0') = 0 := by
  rw [valueOf, Nat.ofDigitChars_replicate_zero, Nat.mul_zero]

lemma valueOf_replicate_append (n : Nat) (digits : List Char) :
    valueOf (List.replicate n '0' ++ digits) = valueOf digits := by
  rw [valueOf_append, valueOf_replicate_zero, Nat.mul_zero, Nat.zero_add]

lemma valueOf_append_replicate (n : Nat) (digits : List Char) :
    valueOf (digits ++ List.replicate n '0') = 10 ^ n * valueOf digits := by
  rw [valueOf_append, valueOf_replicate_zero, List.length_replicate, Nat.add_zero]

lemma valueOf_toDigits (n : Nat) : valueOf (Nat.toDigits 10 n) = n :=
  Nat.ofDigitChars_ten_toDigits

/-- The significand is the value of the digits with some zeros after them. -/
lemma exists_significand_eq (d : Decimal) :
    ∃ zeros, d.width = d.digits.length + zeros ∧ d.significand = 10 ^ zeros * valueOf d.digits := by
  obtain ⟨zeros, hzeros⟩ := exists_toDigits_eq d
  refine ⟨zeros, ?_, ?_⟩
  · rw [width, hzeros, List.length_append, List.length_replicate]
  · have hvalue := congrArg valueOf hzeros
    rwa [valueOf_toDigits, valueOf_append_replicate] at hvalue

end Decimal

namespace NumberLayout

open Decimal (isDigit_of_mem_digits isDigit_of_mem_toDigits)

variable {layout : NumberLayout} {digits : List Char} {point : Int}

/-! ### Places of the point -/

/-- The point stands before all digits, with zeros between. -/
lemma positional_of_nonpos (h : point ≤ 0) :
    layout.positional digits point =
      ['0'] ++ '.' :: (List.replicate (-point).toNat '0' ++ digits) := by
  rw [positional, if_pos h]
  rfl

/-- The point stands among the digits. -/
lemma positional_of_lt (h : 0 < point) (hlt : point.toNat < digits.length) :
    layout.positional digits point = digits.take point.toNat ++ '.' :: digits.drop point.toNat := by
  simp only [positional, if_neg (Int.not_le.2 h), Nat.sub_eq_zero_of_le hlt.le]
  rw [if_pos (by simpa using hlt), List.replicate_zero, List.append_nil]

/-- The point stands behind all digits, with zeros between. -/
lemma positional_of_length_le (halways : layout.fractionAlways = true) (h : 0 < point)
    (hle : digits.length ≤ point.toNat) :
    layout.positional digits point =
      digits ++ List.replicate (point.toNat - digits.length) '0' ++ '.' :: ['0'] := by
  simp only [positional, if_neg (Int.not_le.2 h), List.take_of_length_le hle]
  rw [if_neg (by simpa using hle), if_pos halways]

/-- Wherever the point stands, a digit comes first. -/
lemma exists_positional_eq_cons {ds : List Char} (hc : c.isDigit = true) :
    ∃ e es, layout.positional (c :: ds) point = e :: es ∧ e.isDigit = true := by
  rcases Int.lt_or_le 0 point with hpoint | hpoint
  · obtain ⟨n, hn⟩ : ∃ n : Nat, point.toNat = n + 1 := ⟨point.toNat - 1, by omega⟩
    simp only [positional, if_neg (Int.not_le.2 hpoint), hn, List.take_succ_cons, List.cons_append]
    split
    · exact ⟨c, _, rfl, hc⟩
    · split <;> exact ⟨c, _, rfl, hc⟩
  · rw [positional_of_nonpos hpoint]
    exact ⟨'0', _, rfl, by decide⟩

/-! ### Numbers and other bit patterns -/

section

variable {x : Binary64}

lemma text_of_isNaN (h : x.isNaN = true) : layout.text x = ['N', 'a', 'N'] :=
  if_pos h

lemma text_of_magnitude_eq (h : x.magnitude = Binary64.infiniteMagnitude) :
    layout.text x = (if x.isNegative then ['-'] else []) ++ ['i', 'n', 'f'] := by
  have hnumber : ¬x.isNaN = true := by simp [Binary64.isNaN, h]
  have hinfinite : x.isInfinite = true := by simp [Binary64.isInfinite, h]
  simp only [text, if_neg hnumber, if_pos hinfinite]

lemma text_of_magnitude_lt (h : x.magnitude < Binary64.infiniteMagnitude) :
    layout.text x = (if x.isNegative then ['-'] else []) ++ layout.finite x.magnitude := by
  have hnumber : ¬x.isNaN = true := by simpa [Binary64.isNaN] using h.le
  have hfinite : ¬x.isInfinite = true := by simpa [Binary64.isInfinite] using h.ne
  simp only [text, if_neg hnumber, if_neg hfinite]

end

/-! ### Characters of numbers -/

lemma mem_integer {i : Int} (h : c ∈ integer i) : c = '-' ∨ c.isDigit = true := by
  rw [integer] at h
  split at h
  · exact (List.mem_cons.1 h).imp_right isDigit_of_mem_toDigits
  · exact .inr (isDigit_of_mem_toDigits h)

lemma mem_positional (hdigits : ∀ d ∈ digits, d.isDigit = true)
    (h : c ∈ layout.positional digits point) : c = '.' ∨ c.isDigit = true := by
  have hzero (d : Char) (hd : d = '0') : d.isDigit = true := by
    rw [hd]
    decide
  have htake (d : Char) (hd : d ∈ digits.take point.toNat) : d.isDigit = true :=
    hdigits d (List.mem_of_mem_take hd)
  have hdrop (d : Char) (hd : d ∈ digits.drop point.toNat) : d.isDigit = true :=
    hdigits d (List.mem_of_mem_drop hd)
  simp only [positional] at h
  split at h
  · grind
  · split at h
    · grind
    · split at h <;> grind

lemma mem_exponential (hdigits : ∀ d ∈ digits, d.isDigit = true)
    (h : c ∈ exponential digits point) : c ∈ ['-', '.', 'e'] ∨ c.isDigit = true := by
  have htake (hc : c ∈ digits.take 1) : c.isDigit = true := hdigits c (List.mem_of_mem_take hc)
  have htail (hc : c ∈ digits.tail) : c.isDigit = true := hdigits c (List.mem_of_mem_tail hc)
  have hexponent (hc : c ∈ integer (point - 1)) : c = '-' ∨ c.isDigit = true := mem_integer hc
  simp only [exponential] at h
  split at h <;> grind

lemma mem_finite {magnitude : Nat} (h : c ∈ layout.finite magnitude) :
    c ∈ ['-', '.', 'e'] ∨ c.isDigit = true := by
  have hdigits (d : Char) (hd : d ∈ (Binary64.shortestDecimal magnitude).digits) :
      d.isDigit = true := isDigit_of_mem_digits hd
  rw [finite] at h
  split at h
  · have hc : c = '0' ∨ c = '.' := by
      split at h <;> grind
    rcases hc with rfl | rfl <;> decide
  · simp only at h
    split at h
    · exact mem_exponential hdigits h
    · exact (mem_positional hdigits h).imp_left fun hc => by simp [hc]

/-- The text of a number holds its sign, its point, digits and the letters of a few words. -/
lemma mem_text {x : Binary64} (h : c ∈ layout.text x) :
    c ∈ ['-', '.', 'e', 'i', 'n', 'f', 'N', 'a'] ∨ c.isDigit = true := by
  have hsign (hc : c ∈ if x.isNegative then ['-'] else []) : c = '-' := by
    split at hc <;> simp_all
  simp only [text] at h
  split at h
  · grind
  · split at h
    · grind
    · rcases List.mem_append.1 h with h | h
      · simp [hsign h]
      · exact (mem_finite h).imp_left fun hc => by grind

end NumberLayout

end CanonicalSdl

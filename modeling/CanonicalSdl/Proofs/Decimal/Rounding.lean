import CanonicalSdl.Decimal.Binary64
import Mathlib.Algebra.Order.Field.Power
import Mathlib.Data.Int.Log
import Mathlib.Data.Rat.Floor
import Mathlib.Tactic.GCongr
import Mathlib.Tactic.NormNum
import Mathlib.Tactic.Positivity

/-!
# Rounding to the binary format

What a quotient of natural numbers is rounded to depends on the number it stands for alone, and the
number that a finite magnitude stands for is rounded to that magnitude.
-/

namespace CanonicalSdl.Binary64

variable {num den num' den' c m : Nat}

/-! ### Powers with an integer exponent -/

lemma zpow_eq_div {b : ℚ} (hb : b ≠ 0) (e : ℤ) : b ^ e = b ^ e.toNat / b ^ (-e).toNat := by
  rw [← zpow_natCast, ← zpow_natCast, ← zpow_sub₀ hb, Int.toNat_sub_toNat_neg]

/-- The place of the leading binary digit. -/
lemma floorLog2_eq_log (hnum : 0 < num) (hden : 0 < den) :
    floorLog2 num den = Int.log 2 ((num : ℚ) / den) := by
  have hnum' : (0 : ℚ) < num := by exact_mod_cast hnum
  have hden' : (0 : ℚ) < den := by exact_mod_cast hden
  have hr : 0 < (num : ℚ) / den := div_pos hnum' hden'
  -- the test that decides between them, in terms of powers of two
  have htest (e : ℤ) : den <<< e.toNat ≤ num <<< (-e).toNat ↔ e ≤ Int.log 2 ((num : ℚ) / den) := by
    rw [← Int.zpow_le_iff_le_log one_lt_two hr, Nat.cast_ofNat, zpow_eq_div two_ne_zero,
      div_le_div_iff₀ (by positivity) hden', Nat.shiftLeft_eq, Nat.shiftLeft_eq, mul_comm]
    exact_mod_cast Iff.rfl
  -- the lengths of numerator and denominator leave two places to choose from
  have hlow : (num.log2 : ℤ) - den.log2 - 1 ≤ Int.log 2 ((num : ℚ) / den) := by
    rw [← Int.zpow_le_iff_le_log one_lt_two hr, Nat.cast_ofNat, sub_sub, zpow_sub₀ two_ne_zero]
    have hn : (2 : ℚ) ^ num.log2 ≤ num := by exact_mod_cast Nat.log2_self_le hnum.ne'
    have hd : (den : ℚ) ≤ 2 ^ (den.log2 + 1) := by exact_mod_cast Nat.lt_log2_self.le
    exact div_le_div₀ hnum'.le (by exact_mod_cast hn) hden' (by exact_mod_cast hd)
  have hhigh : Int.log 2 ((num : ℚ) / den) < (num.log2 : ℤ) + 1 - den.log2 := by
    rw [← Int.lt_zpow_iff_log_lt one_lt_two hr, Nat.cast_ofNat, zpow_sub₀ two_ne_zero]
    have hn : (num : ℚ) < 2 ^ (num.log2 + 1) := by exact_mod_cast Nat.lt_log2_self
    have hd : (2 : ℚ) ^ den.log2 ≤ den := by exact_mod_cast Nat.log2_self_le hden.ne'
    exact div_lt_div₀ (by exact_mod_cast hn) (by exact_mod_cast hd) (by positivity) (by positivity)
  rw [floorLog2]
  split
  next h => rw [htest] at h; omega
  next h => rw [htest] at h; omega

/-! ### Quotients that stand for one number -/

lemma divNearest_mul_left (hc : 0 < c) : divNearest (c * num) (c * den) = divNearest num den := by
  have hlt : 2 * (c * (num % den)) < c * den ↔ 2 * (num % den) < den := by
    rw [Nat.mul_left_comm, Nat.mul_lt_mul_left hc]
  have heq : 2 * (c * (num % den)) = c * den ↔ 2 * (num % den) = den := by
    rw [Nat.mul_left_comm, Nat.mul_left_cancel_iff hc]
  simp only [divNearest, Nat.mul_mod_mul_left, Nat.mul_div_mul_left _ _ hc, hlt, heq]

/-- A natural number is rounded to itself. -/
lemma divNearest_mul_self (hden : 0 < den) (n : Nat) : divNearest (n * den) den = n := by
  rw [divNearest, Nat.mul_mod_left, Nat.mul_div_cancel _ hden, if_pos (.inl hden)]

lemma roundRatio_mul_left (hc : 0 < c) (hden : 0 < den) :
    roundRatio (c * num) (c * den) = roundRatio num den := by
  rcases Nat.eq_zero_or_pos num with rfl | hnum
  · rw [Nat.mul_zero, roundRatio, roundRatio, if_pos rfl, if_pos rfl]
  · have hlog : floorLog2 (c * num) (c * den) = floorLog2 num den := by
      rw [floorLog2_eq_log (Nat.mul_pos hc hnum) (Nat.mul_pos hc hden), floorLog2_eq_log hnum hden,
        Nat.cast_mul, Nat.cast_mul, mul_div_mul_left _ _ (by exact_mod_cast hc.ne')]
    have hshift (n k : Nat) : (c * n) <<< k = c * n <<< k := by
      rw [Nat.shiftLeft_eq, Nat.shiftLeft_eq, Nat.mul_assoc]
    rw [roundRatio, roundRatio, if_neg (Nat.mul_pos hc hnum).ne', if_neg hnum.ne']
    simp only [hlog, hshift, divNearest_mul_left hc]

/-- Quotients that stand for one number have one magnitude. -/
lemma roundRatio_congr (hden : 0 < den) (hden' : 0 < den')
    (h : (num : ℚ) / den = num' / den') : roundRatio num den = roundRatio num' den' := by
  have hcross : den' * num = den * num' := by
    rw [div_eq_div_iff (by exact_mod_cast hden.ne') (by exact_mod_cast hden'.ne')] at h
    rw [mul_comm, mul_comm den]
    exact_mod_cast h
  rw [← roundRatio_mul_left hden' hden, hcross, mul_comm den', roundRatio_mul_left hden hden']

/-! ### The number that a magnitude stands for -/

/-- The number that a finite magnitude stands for. -/
def value (magnitude : Nat) : ℚ :=
  significandOf magnitude * 2 ^ exponentOf magnitude

lemma significandOf_of_lt (hm : m < fractionCount) : significandOf m = m :=
  if_pos hm

lemma significandOf_of_le (hm : fractionCount ≤ m) :
    significandOf m = fractionCount + m % fractionCount :=
  if_neg (Nat.not_lt.2 hm)

lemma significandOf_pos (hm : 0 < m) : 0 < significandOf m := by
  rcases Nat.lt_or_ge m fractionCount with h | h
  · rwa [significandOf_of_lt h]
  · rw [significandOf_of_le h]
    exact Nat.add_pos_left (by decide) _

lemma significandOf_lt (m : Nat) : significandOf m < 2 ^ 53 := by
  rcases Nat.lt_or_ge m fractionCount with h | h
  · rw [significandOf_of_lt h]
    exact h.trans (by decide)
  · rw [significandOf_of_le h]
    simp only [fractionCount]
    omega

lemma le_significandOf (hm : fractionCount ≤ m) : 2 ^ 52 ≤ significandOf m := by
  rw [significandOf_of_le hm]
  exact Nat.le_add_right _ _

lemma value_pos (hm : 0 < m) : 0 < value m := by
  have hsignificand : (0 : ℚ) < significandOf m := by exact_mod_cast significandOf_pos hm
  rw [value]
  positivity

lemma value_lt (m : Nat) : value m < 2 ^ (exponentOf m + 53) := by
  have hsignificand : (significandOf m : ℚ) < 2 ^ (53 : ℤ) := by exact_mod_cast significandOf_lt m
  rw [value, add_comm, zpow_add₀ two_ne_zero]
  gcongr

lemma le_value (hm : fractionCount ≤ m) : (2 : ℚ) ^ (exponentOf m + 52) ≤ value m := by
  have hsignificand : (2 : ℚ) ^ (52 : ℤ) ≤ significandOf m := by exact_mod_cast le_significandOf hm
  rw [value, add_comm, zpow_add₀ two_ne_zero]
  gcongr

/-- The exponent of a magnitude is that of the last place to which its value is rounded. -/
lemma max_log_value (hm : 0 < m) : max (Int.log 2 (value m) - 52) (-1074) = exponentOf m := by
  have hhigh := (Int.lt_zpow_iff_log_lt one_lt_two (value_pos hm)).1 (value_lt m)
  rcases Nat.lt_or_ge m fractionCount with hsmall | hlarge
  · have hexponent : exponentOf m = -1074 := by
      simp only [exponentOf, Nat.div_eq_of_lt hsmall]
      rfl
    omega
  · have hlow := (Int.zpow_le_iff_le_log one_lt_two (value_pos hm)).1 (le_value hlarge)
    have hexponent : -1074 ≤ exponentOf m := by simp only [exponentOf]; omega
    omega

lemma ratioOf_snd_pos (m : Nat) : 0 < (ratioOf m).2 := by
  simp only [ratioOf, Nat.shiftLeft_eq]
  positivity

lemma ratioOf_eq_value (m : Nat) : ((ratioOf m).1 : ℚ) / (ratioOf m).2 = value m := by
  simp only [ratioOf, value, Nat.shiftLeft_eq, one_mul, zpow_eq_div two_ne_zero, Nat.cast_mul,
    Nat.cast_pow, Nat.cast_ofNat, mul_div_assoc]

/-- A finite magnitude counts the last places below its value. -/
lemma exponentOf_significandOf (m : Nat) :
    (exponentOf m + 1074).toNat * fractionCount + significandOf m = m := by
  rcases Nat.lt_or_ge m fractionCount with h | h
  · rw [significandOf_of_lt h]
    simp only [exponentOf, fractionCount] at *
    omega
  · rw [significandOf_of_le h]
    simp only [exponentOf, fractionCount] at *
    omega

lemma roundRatio_ratioOf (hm : 0 < m) (hfinite : m < infiniteMagnitude) :
    roundRatio (ratioOf m).1 (ratioOf m).2 = m := by
  have hnum : 0 < (ratioOf m).1 := by
    simp only [ratioOf, Nat.shiftLeft_eq]
    exact Nat.mul_pos (significandOf_pos hm) (by positivity)
  have hlog : max (floorLog2 (ratioOf m).1 (ratioOf m).2 - 52) (-1074) = exponentOf m := by
    rw [floorLog2_eq_log hnum (ratioOf_snd_pos m), ratioOf_eq_value, max_log_value hm]
  have hquotient : (ratioOf m).1 <<< (-exponentOf m).toNat =
      significandOf m * (ratioOf m).2 <<< (exponentOf m).toNat := by
    simp only [ratioOf, Nat.shiftLeft_eq]
    ring
  have hden : 0 < (ratioOf m).2 <<< (exponentOf m).toNat := by
    rw [Nat.shiftLeft_eq]
    exact Nat.mul_pos (ratioOf_snd_pos m) (by positivity)
  rw [roundRatio, if_neg hnum.ne']
  simp only [hlog, hquotient, divNearest_mul_self hden, exponentOf_significandOf]
  exact Nat.min_eq_left hfinite.le

/-- The number that a finite magnitude stands for is rounded to it. -/
theorem roundRatio_of_value (hm : 0 < m) (hfinite : m < infiniteMagnitude) (hden : 0 < den)
    (h : (num : ℚ) / den = value m) : roundRatio num den = m := by
  rw [← ratioOf_eq_value] at h
  rw [roundRatio_congr hden (ratioOf_snd_pos m) h, roundRatio_ratioOf hm hfinite]

/-! ### The range of the finite magnitudes -/

lemma le_value_of_pos (hm : 0 < m) : (2 : ℚ) ^ (-1074 : ℤ) ≤ value m := by
  have hsignificand : (1 : ℚ) ≤ significandOf m := by exact_mod_cast significandOf_pos hm
  have hexponent : (2 : ℚ) ^ (-1074 : ℤ) ≤ 2 ^ exponentOf m := by
    apply zpow_le_zpow_right₀ one_le_two
    simp only [exponentOf]
    omega
  rw [value]
  exact hexponent.trans (le_mul_of_one_le_left (by positivity) hsignificand)

lemma value_lt_of_lt (hfinite : m < infiniteMagnitude) : value m < 2 ^ (1024 : ℤ) := by
  refine (value_lt m).trans_le (zpow_le_zpow_right₀ one_le_two ?_)
  simp only [exponentOf, infiniteMagnitude, fractionCount] at *
  omega

end CanonicalSdl.Binary64

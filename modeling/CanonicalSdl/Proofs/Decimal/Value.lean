import CanonicalSdl.Decimal.Shortest
import CanonicalSdl.Proofs.Decimal.Rounding

/-!
# The numbers that decimals stand for

The magnitude of a decimal depends on the number it stands for alone. The exact decimal of a finite
magnitude reads back as it, and so does the shortest one.
-/

namespace CanonicalSdl

open Binary64 (zpow_eq_div infiniteMagnitude exactDecimal shortestDecimal)

namespace Decimal

variable {d d' : Decimal} {m : Nat}

/-- The number that a decimal stands for. -/
def value (d : Decimal) : ℚ :=
  d.significand * 10 ^ d.exponent

lemma value_eq_zero_iff : d.value = 0 ↔ d.significand = 0 := by
  have hpower : (10 : ℚ) ^ d.exponent ≠ 0 := by positivity
  rw [value, mul_eq_zero, or_iff_left hpower, Nat.cast_eq_zero]

lemma value_pos (h : 0 < d.significand) : 0 < d.value := by
  have hsignificand : (0 : ℚ) < d.significand := by exact_mod_cast h
  rw [value]
  positivity

lemma width_pos (d : Decimal) : 0 < d.width :=
  Nat.length_toDigits_pos

lemma significand_lt (d : Decimal) : d.significand < 10 ^ d.width :=
  (Nat.length_toDigits_le_iff (by decide) d.width_pos).1 (Nat.le_refl d.width)

lemma le_significand (h : 0 < d.significand) : 10 ^ (d.width - 1) ≤ d.significand := by
  rcases Nat.eq_zero_or_pos (d.width - 1) with hw | hw
  · rwa [hw]
  · have hlong : ¬ d.width ≤ d.width - 1 := by omega
    exact Nat.not_lt.1 fun hlt => hlong ((Nat.length_toDigits_le_iff (by decide) hw).2 hlt)

/-- The point stands right behind the place of the leading digit. -/
lemma point_eq_log (h : 0 < d.significand) : d.point = Int.log 10 d.value + 1 := by
  have hwidth := d.width_pos
  have hlow : d.point - 1 ≤ Int.log 10 d.value := by
    have hsignificand : (10 : ℚ) ^ (d.width - 1) ≤ d.significand := by
      exact_mod_cast le_significand h
    have hpoint : d.point - 1 = ((d.width - 1 : ℕ) : ℤ) + d.exponent := by rw [point]; omega
    rw [← Int.zpow_le_iff_le_log (by decide) (value_pos h), hpoint, value, Nat.cast_ofNat,
      zpow_add₀ (by norm_num), zpow_natCast]
    gcongr
  have hhigh : Int.log 10 d.value < d.point := by
    have hsignificand : (d.significand : ℚ) < 10 ^ d.width := by exact_mod_cast d.significand_lt
    rw [← Int.lt_zpow_iff_log_lt (by decide) (value_pos h), point, value, Nat.cast_ofNat,
      zpow_add₀ (by norm_num), zpow_natCast]
    gcongr
  omega

lemma ratio_eq_value (d : Decimal) :
    ((d.significand * powerOfTen d.exponent.toNat : ℕ) : ℚ) / (powerOfTen (-d.exponent).toNat : ℕ) =
      d.value := by
  have hpower (n : ℕ) : ((powerOfTen n : ℕ) : ℚ) = 10 ^ n := by
    rw [powerOfTen, Nat.pow_eq, Nat.cast_pow, Nat.cast_ofNat]
  rw [value, zpow_eq_div (by norm_num), Nat.cast_mul, hpower, hpower, mul_div_assoc]

lemma powerOfTen_pos (n : Nat) : 0 < powerOfTen n :=
  Nat.pow_pos (by decide)

/-- Decimals that stand for one number have one magnitude. -/
theorem magnitude_congr (h : d.value = d'.value) : d.magnitude = d'.magnitude := by
  have hzero : d.significand = 0 ↔ d'.significand = 0 := by
    rw [← value_eq_zero_iff, h, value_eq_zero_iff]
  rcases Nat.eq_zero_or_pos d.significand with h0 | hpos
  · rw [magnitude, magnitude, if_pos (.inl h0), if_pos (.inl (hzero.1 h0))]
  · have hpos' : 0 < d'.significand := Nat.pos_of_ne_zero fun h0 => hpos.ne' (hzero.2 h0)
    have hpoint : d.point = d'.point := by rw [point_eq_log hpos, point_eq_log hpos', h]
    have hround := Binary64.roundRatio_congr (powerOfTen_pos (-d.exponent).toNat)
      (powerOfTen_pos (-d'.exponent).toNat)
      ((ratio_eq_value d).trans (h.trans (ratio_eq_value d').symm))
    simp only [magnitude, hpos.ne', hpos'.ne', hpoint, hround]

/-- The smallest positive magnitude is beyond `10 ^ -324`. -/
lemma smallest_bound : ((10 : ℕ) : ℚ) ^ (-324 : ℤ) ≤ 2 ^ (-1074 : ℤ) := by
  have hpowers : 2 ^ 1074 ≤ 10 ^ 324 := by decide +kernel
  rw [zpow_neg, zpow_neg, inv_le_inv₀ (by positivity) (by positivity)]
  exact_mod_cast hpowers

lemma greatest_bound : (2 : ℚ) ^ (1024 : ℤ) ≤ ((10 : ℕ) : ℚ) ^ (309 : ℤ) := by
  have hpowers : 2 ^ 1024 ≤ 10 ^ 309 := by decide +kernel
  exact_mod_cast hpowers

/-- A decimal that stands for the number of a finite magnitude has this magnitude. -/
lemma magnitude_of_value (hm : 0 < m) (hfinite : m < infiniteMagnitude)
    (h : d.value = Binary64.value m) : d.magnitude = m := by
  have hpos : 0 < d.significand := by
    apply Nat.pos_of_ne_zero
    rw [Ne, ← value_eq_zero_iff, h]
    exact (Binary64.value_pos hm).ne'
  have hlow : -324 ≤ Int.log 10 d.value := by
    rw [← Int.zpow_le_iff_le_log (by decide) (value_pos hpos), h]
    exact smallest_bound.trans (Binary64.le_value_of_pos hm)
  have hhigh : Int.log 10 d.value < 309 := by
    rw [← Int.lt_zpow_iff_log_lt (by decide) (value_pos hpos), h]
    exact (Binary64.value_lt_of_lt hfinite).trans_le greatest_bound
  have hpoint := point_eq_log hpos
  rw [magnitude, if_neg (by omega), if_neg (by omega)]
  exact Binary64.roundRatio_of_value hm hfinite (powerOfTen_pos _) ((ratio_eq_value d).trans h)

end Decimal

namespace Binary64

variable {m : Nat}

/-! ### Decimals that read back -/

lemma value_exactDecimal (m : Nat) : (exactDecimal m).value = value m := by
  simp only [exactDecimal]
  split
  next h =>
    rw [Decimal.value, value, Nat.shiftLeft_eq, zpow_zero, mul_one, Nat.cast_mul, Nat.cast_pow,
      Nat.cast_ofNat, ← zpow_natCast, Int.toNat_of_nonneg h]
  next h =>
    have hneg : exponentOf m = -((-exponentOf m).toNat : ℤ) := by omega
    have hten : (10 : ℚ) = 5 * 2 := by norm_num
    rw [Decimal.value, value, Nat.pow_eq, Nat.cast_mul, Nat.cast_pow, Nat.cast_ofNat]
    generalize (-exponentOf m).toNat = k at hneg ⊢
    rw [hneg, hten, mul_zpow, zpow_neg, zpow_natCast, mul_assoc,
      mul_inv_cancel_left₀ (by positivity)]

/-- The exact decimal of a finite magnitude reads back as it. -/
lemma magnitude_exactDecimal (hm : 0 < m) (hfinite : m < infiniteMagnitude) :
    (exactDecimal m).magnitude = m :=
  Decimal.magnitude_of_value hm hfinite (value_exactDecimal m)

/-- The shortest decimal of a finite magnitude reads back as it. -/
theorem magnitude_shortestDecimal (hm : 0 < m) (hfinite : m < infiniteMagnitude) :
    (shortestDecimal m).magnitude = m := by
  rw [shortestDecimal]
  cases hshort : (List.range' 1 17).findSome? (decimalWithDigits? m) with
  | none => exact magnitude_exactDecimal hm hfinite
  | some d =>
    obtain ⟨count, -, hd⟩ := List.exists_of_findSome?_eq_some hshort
    have hreads := List.find?_some hd
    exact beq_iff_eq.1 hreads

/-- A positive finite magnitude has a positive shortest decimal, in the range of the finite
magnitudes. -/
lemma shortestDecimal_bounds (hm : 0 < m) (hfinite : m < infiniteMagnitude) :
    0 < (shortestDecimal m).significand ∧ (shortestDecimal m).point ≤ 310 := by
  have hmagnitude := magnitude_shortestDecimal hm hfinite
  rw [Decimal.magnitude] at hmagnitude
  split at hmagnitude
  next => omega
  next hzero =>
    split at hmagnitude
    next => omega
    next hpoint =>
      rw [not_or] at hzero
      exact ⟨Nat.pos_of_ne_zero hzero.1, Int.not_lt.1 hpoint⟩

end Binary64

end CanonicalSdl

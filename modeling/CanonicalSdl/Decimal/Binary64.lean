import CanonicalSdl.Decimal.Basic

/-!
# Binary floating-point numbers

The 64-bit binary format: a sign bit and a magnitude of 63 bits, whose top eleven bits give the
place of the last bit and whose lower 52 bits the fraction. Read as natural numbers, magnitudes
are ordered like the numbers they stand for; the infinite magnitude comes next after the finite
ones, and the magnitudes above it are not numbers.
-/

namespace CanonicalSdl

/-- A binary floating-point number, given by its 64 bits. Equality is equality of the bits; `==`
compares as numbers. -/
structure Binary64 where
  bits : UInt64
  deriving DecidableEq

namespace Binary64

/-- What the sign bit counts among the bits read as a natural number. -/
def signWeight : Nat := 0x8000000000000000

/-- How many fractions there are. -/
def fractionCount : Nat := 0x10000000000000

/-- Whether the sign bit is set. -/
def isNegative (x : Binary64) : Bool :=
  signWeight ≤ x.bits.toNat

/-- The bits without the sign bit. -/
def magnitude (x : Binary64) : Nat :=
  x.bits.toNat % signWeight

/-- The magnitude of the two infinities. -/
def infiniteMagnitude : Nat :=
  2047 * fractionCount

/-- The number with a given sign and magnitude. -/
def ofMagnitude (negative : Bool) (magnitude : Nat) : Binary64 :=
  ⟨.ofNat (if negative then signWeight + magnitude else magnitude)⟩

/-- The bits stand for no number. -/
def isNaN (x : Binary64) : Bool :=
  infiniteMagnitude < x.magnitude

/-- A number of either sign above all finite ones. -/
def isInfinite (x : Binary64) : Bool :=
  x.magnitude == infiniteMagnitude

/-- The infinity with a given sign. -/
def infinity (negative : Bool) : Binary64 :=
  ofMagnitude negative infiniteMagnitude

/-- The quiet bit pattern that stands for no number. -/
def nan : Binary64 :=
  ofMagnitude false (infiniteMagnitude + fractionCount / 2)

/-- Two numbers compare equal if they have the same bits or are both zero; what is not a number
equals nothing. -/
instance : BEq Binary64 where
  beq x y :=
    !x.isNaN && !y.isNaN && (x.bits == y.bits || (x.magnitude == 0 && y.magnitude == 0))

/-! ### The value of a finite magnitude -/

/-- The integer that a finite magnitude scales by a power of two. -/
def significandOf (magnitude : Nat) : Nat :=
  if magnitude < fractionCount then magnitude else fractionCount + magnitude % fractionCount

/-- The exponent of the power of two that scales the significand. -/
def exponentOf (magnitude : Nat) : Int :=
  (max (magnitude / fractionCount) 1 : Nat) - 1075

/-- A finite magnitude as the quotient of two natural numbers. -/
def ratioOf (magnitude : Nat) : Nat × Nat :=
  (significandOf magnitude <<< (exponentOf magnitude).toNat,
    1 <<< (-exponentOf magnitude).toNat)

/-! ### Rounding -/

/-- The natural number nearest to a quotient, the even one of two that are equally near. -/
def divNearest (num den : Nat) : Nat :=
  if 2 * (num % den) < den ∨ (2 * (num % den) = den ∧ (num / den) % 2 = 0) then num / den
  else num / den + 1

/-- The greatest `e` with `2 ^ e ≤ num / den`, for positive arguments. -/
def floorLog2 (num den : Nat) : Int :=
  let e : Int := (num.log2 : Int) - den.log2
  if den <<< e.toNat ≤ num <<< (-e).toNat then e else e - 1

/-- The magnitude nearest to a quotient of natural numbers, the one with an even significand of
two that are equally near; quotients beyond the finite ones have the infinite magnitude. -/
def roundRatio (num den : Nat) : Nat :=
  if num = 0 then 0
  else
    let q : Int := max (floorLog2 num den - 52) (-1074)
    min ((q + 1074).toNat * fractionCount +
        divNearest (num <<< (-q).toNat) (den <<< q.toNat))
      infiniteMagnitude

end Binary64

namespace Decimal

/-- The magnitude nearest to a decimal number. Numbers below `10 ^ -324` are less than half the
smallest positive magnitude, and those from `10 ^ 310` on are beyond the greatest finite one, so
that only moderate powers of ten are ever computed. -/
def magnitude (d : Decimal) : Nat :=
  if d.significand = 0 ∨ d.point < -323 then 0
  else if 310 < d.point then Binary64.infiniteMagnitude
  else
    Binary64.roundRatio (d.significand * powerOfTen d.exponent.toNat)
      (powerOfTen (-d.exponent).toNat)

end Decimal

namespace Binary64

/-- The floating-point number nearest to a decimal number with a sign. -/
def ofDecimal (negative : Bool) (d : Decimal) : Binary64 :=
  ofMagnitude negative d.magnitude

/-- Reads an unsigned number, which may also be infinite or no number, whatever the case of its
letters. -/
def readUnsigned? (negative : Bool) (cs : List Char) : Option Binary64 :=
  let word := cs.map Char.toLower
  if word = ['i', 'n', 'f'] ∨ word = ['i', 'n', 'f', 'i', 'n', 'i', 't', 'y'] then
    some (infinity negative)
  else if word = ['n', 'a', 'n'] then some nan
  else (Decimal.read? cs).map (ofDecimal negative)

/-- Reads a number after an optional sign. -/
def read? : List Char → Option Binary64
  | '-' :: cs => readUnsigned? true cs
  | '+' :: cs => readUnsigned? false cs
  | cs => readUnsigned? false cs

example : read? "-0".toList = some ⟨0x8000000000000000⟩ := by decide +kernel
example : read? "0.1".toList = some ⟨0x3FB999999999999A⟩ := by decide +kernel
example : read? "5e-324".toList = some ⟨1⟩ := by decide +kernel
example : (read? "2.4703282292062327208e-324".toList).map magnitude = some 0 := by decide +kernel
example : (read? "1.7976931348623157e308".toList).map magnitude = some (infiniteMagnitude - 1) := by
  decide +kernel
example : (read? "1.7976931348623159e308".toList).map magnitude = some infiniteMagnitude := by
  decide +kernel
example : read? "9007199254740993".toList = some ⟨0x4340000000000000⟩ := by decide +kernel

end Binary64

end CanonicalSdl

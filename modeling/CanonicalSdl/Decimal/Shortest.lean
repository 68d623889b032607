import CanonicalSdl.Decimal.Binary64

/-!
# Shortest decimals

The decimal number with the fewest digits that reads back as a given floating-point number, and
the nearest to it among those. For each number of digits the two neighbours of the exact value on
the grid of decimals with that many digits are tried: if any decimal of the grid reads back, one
of the two does.
-/

namespace CanonicalSdl.Binary64

/-- The greatest `e` with `10 ^ e ≤ num / den`, for positive arguments. -/
def floorLog10 (num den : Nat) : Int :=
  if den ≤ num then ((Nat.toDigits 10 (num / den)).length : Int) - 1
  else -((Nat.toDigits 10 ((den - 1) / num)).length : Int)

/-- The decimal that is nearest to a magnitude among the decimals with at most `count` digits, of
two that are equally near the greater one, if it reads back; otherwise its other neighbour on that
grid, if that one does. -/
def decimalWithDigits? (magnitude count : Nat) : Option Decimal :=
  let (num, den) := ratioOf magnitude
  let e := floorLog10 num den + 1 - count
  let n := num * Decimal.powerOfTen (-e).toNat
  let d := den * Decimal.powerOfTen e.toNat
  let below : Decimal := ⟨n / d, e⟩
  let above : Decimal := ⟨n / d + 1, e⟩
  let order := if 2 * (n % d) < d then [below, above] else [above, below]
  order.find? fun decimal => decimal.magnitude == magnitude

/-- A finite magnitude as a decimal, with all its digits. -/
def exactDecimal (magnitude : Nat) : Decimal :=
  let q := exponentOf magnitude
  if 0 ≤ q then ⟨significandOf magnitude <<< q.toNat, 0⟩
  else ⟨significandOf magnitude * Nat.pow 5 (-q).toNat, q⟩

/-- The shortest decimal that reads back as a positive finite magnitude. Seventeen digits always
suffice, and the exact value stands behind them. -/
def shortestDecimal (magnitude : Nat) : Decimal :=
  ((List.range' 1 17).findSome? (decimalWithDigits? magnitude)).getD (exactDecimal magnitude)

example : shortestDecimal 1 = ⟨5, -324⟩ := by decide +kernel
example : shortestDecimal 0x3FB999999999999A = ⟨1, -1⟩ := by decide +kernel
example : shortestDecimal 0x3FD3333333333334 = ⟨30000000000000004, -17⟩ := by decide +kernel
example : (shortestDecimal 0x44B52D02C7E14AF6).digits = ['1'] := by decide +kernel

end CanonicalSdl.Binary64

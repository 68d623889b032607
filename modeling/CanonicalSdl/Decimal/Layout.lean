import CanonicalSdl.Decimal.Shortest

/-!
# Layouts of numbers

How a floating-point number is written: its shortest digits with a point among them, or one digit
before the point and an exponent after the digits. Which of the two is written, and whether a
whole number gets a fraction, is a choice of each format.
-/

namespace CanonicalSdl

/-- The choices of a number format. -/
structure NumberLayout where
  /-- The exponents of the leading digit for which the number is written with an exponent. -/
  scientific : Int → Bool
  /-- A whole number without an exponent is written with the fraction `.0`. -/
  fractionAlways : Bool

namespace NumberLayout

/-- Digits with the point at a given place among, before or after them. -/
def positional (layout : NumberLayout) (digits : List Char) (point : Int) : List Char :=
  if point ≤ 0 then '0' :: '.' :: (List.replicate (-point).toNat '0' ++ digits)
  else
    let whole := digits.take point.toNat ++ List.replicate (point.toNat - digits.length) '0'
    let fraction := digits.drop point.toNat
    if !fraction.isEmpty then whole ++ '.' :: fraction
    else if layout.fractionAlways then whole ++ ['.', '0']
    else whole

/-- The text of an integer. -/
def integer (i : Int) : List Char :=
  if i < 0 then '-' :: Nat.toDigits 10 i.natAbs else Nat.toDigits 10 i.natAbs

/-- The first digit, the others after a point, and the exponent of the first. -/
def exponential (digits : List Char) (point : Int) : List Char :=
  let fraction := if digits.tail.isEmpty then [] else '.' :: digits.tail
  digits.take 1 ++ fraction ++ 'e' :: integer (point - 1)

/-- The text of a finite magnitude. -/
def finite (layout : NumberLayout) (magnitude : Nat) : List Char :=
  if magnitude = 0 then
    if layout.fractionAlways then ['0', '.', '0'] else ['0']
  else
    let decimal := Binary64.shortestDecimal magnitude
    if layout.scientific (decimal.point - 1) then exponential decimal.digits decimal.point
    else layout.positional decimal.digits decimal.point

/-- The text of a floating-point number: a sign and its magnitude, or a word for what has none. -/
def text (layout : NumberLayout) (x : Binary64) : List Char :=
  let sign := if x.isNegative then ['-'] else []
  if x.isNaN then ['N', 'a', 'N']
  else if x.isInfinite then sign ++ ['i', 'n', 'f']
  else sign ++ layout.finite x.magnitude

end NumberLayout

end CanonicalSdl

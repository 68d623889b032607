/-!
# Decimal numbers

A number with finitely many decimal digits, `significand · 10 ^ exponent`, and its reading from
text: digits with an optional point and an optional exponent.
-/

namespace CanonicalSdl

/-- The number `significand · 10 ^ exponent`. -/
structure Decimal where
  significand : Nat
  exponent : Int
  deriving DecidableEq

namespace Decimal

/-- The value of a run of decimal digits. -/
def valueOf (digits : List Char) : Nat :=
  Nat.ofDigitChars 10 digits 0

/-- How many digits the significand has. -/
def width (d : Decimal) : Nat :=
  (Nat.toDigits 10 d.significand).length

/-- The digits of the significand without trailing zeros. -/
def digits (d : Decimal) : List Char :=
  ((Nat.toDigits 10 d.significand).reverse.dropWhile (· == '0')).reverse

/-- The place of the decimal point, counted from before the first digit of the significand: the
number is `0.ddd · 10 ^ point`. -/
def point (d : Decimal) : Int :=
  d.width + d.exponent

/-- The power of ten with a given exponent. -/
def powerOfTen (exponent : Nat) : Nat :=
  Nat.pow 10 exponent

/-- How many integers of 64 bits are negative. -/
def int64Negatives : Nat := 0x8000000000000000

/-- The integer with a given sign and absolute value, if it fits into 64 bits. -/
def int64? (negative : Bool) (n : Nat) : Option Int64 :=
  if negative then if n ≤ int64Negatives then some (.ofInt (-(n : Int))) else none
  else if n < int64Negatives then some (.ofInt n) else none

/-! ### Reading -/

/-- The value of a non-empty run of digits. -/
def readDigits? (cs : List Char) : Option Nat :=
  if cs.isEmpty || !cs.all Char.isDigit then none else some (valueOf cs)

/-- Reads the digits of an exponent after its optional sign. -/
def readExponent? : List Char → Option Int
  | '-' :: cs => (readDigits? cs).map fun n => -(n : Int)
  | '+' :: cs => (readDigits? cs).map fun n => (n : Int)
  | cs => (readDigits? cs).map fun n => (n : Int)

/-- Reads the exponent part of a number, which may be missing. -/
def readExponentPart? : List Char → Option Int
  | [] => some 0
  | 'e' :: cs => readExponent? cs
  | 'E' :: cs => readExponent? cs
  | _ => none

/-- Reads what follows the whole digits of a number: the fraction and the exponent part, each of
which may be missing. Digits are required on one side of the point. -/
def readAfterWhole? (whole : List Char) : List Char → Option Decimal
  | '.' :: cs =>
    let fraction := cs.takeWhile Char.isDigit
    if whole.isEmpty && fraction.isEmpty then none
    else
      (readExponentPart? (cs.dropWhile Char.isDigit)).map fun e =>
        ⟨valueOf (whole ++ fraction), e - fraction.length⟩
  | cs =>
    if whole.isEmpty then none
    else (readExponentPart? cs).map fun e => ⟨valueOf whole, e⟩

/-- Reads an unsigned decimal number: digits, then `.` and digits, then `e` and an exponent. -/
def read? (cs : List Char) : Option Decimal :=
  readAfterWhole? (cs.takeWhile Char.isDigit) (cs.dropWhile Char.isDigit)

example : read? "12.50e-3".toList = some ⟨1250, -5⟩ := by decide
example : read? ".5".toList = some ⟨5, -1⟩ := by decide
example : read? "5.".toList = some ⟨5, 0⟩ := by decide
example : read? "1e+".toList = none := by decide
example : read? ".".toList = none := by decide

end Decimal

end CanonicalSdl

import CanonicalSdl.Token.Basic

/-!
# Number literals

The texts of integer and floating-point literals. The whole part is a lone zero or does not begin
with one; a point is followed by a digit; and an exponent without a sign begins with one of the
digits from 1 to 8.
-/

namespace CanonicalSdl.Token

/-- Whether digits can be the whole part of a number. -/
def isWholePart : List Char → Bool
  | [] => false
  | ['0'] => true
  | c :: cs => c != '0' && (c :: cs).all Char.isDigit

/-- Whether a text can follow the exponent mark. -/
def isExponent : List Char → Bool
  | [] => false
  | c :: cs =>
    (if c = '-' || c = '+' then !cs.isEmpty else '1' ≤ c && c ≤ '8') && cs.all Char.isDigit

/-- Whether a text can follow the digits of a floating-point literal: nothing, or an exponent. -/
def isExponentPart : List Char → Bool
  | [] => true
  | c :: cs => (c = 'e' || c = 'E') && isExponent cs

/-- Whether a text can follow the whole part of a floating-point literal. -/
def isFloatTail : List Char → Bool
  | '.' :: cs =>
    !(cs.takeWhile Char.isDigit).isEmpty && isExponentPart (cs.dropWhile Char.isDigit)
  | cs => isExponentPart cs

/-- The number that an unsigned text denotes under a sign. -/
def ofUnsigned? (negative : Bool) (cs : List Char) : Option Token :=
  let whole := cs.takeWhile Char.isDigit
  let tail := cs.dropWhile Char.isDigit
  if !isWholePart whole then none
  else if tail.isEmpty then (Decimal.int64? negative (Decimal.valueOf whole)).map int
  else if isFloatTail tail then
    (Decimal.readAfterWhole? whole tail).map fun d => float (.ofDecimal negative d)
  else none

/-- The number that a text denotes. -/
def ofNumber? : List Char → Option Token
  | '-' :: cs => ofUnsigned? true cs
  | cs => ofUnsigned? false cs

example : ofNumber? "-0".toList = some (int 0) := by decide +kernel
example : ofNumber? "-9223372036854775808".toList = some (int (-9223372036854775808)) := by
  decide +kernel
example : ofNumber? "9223372036854775808".toList = none := by decide +kernel
example : ofNumber? "1e9".toList = none := by decide +kernel
example : ofNumber? "01".toList = none := by decide +kernel
example : ofNumber? "1.".toList = none := by decide +kernel
example : (ofNumber? "-0.5E+09".toList).isSome := by decide +kernel

end CanonicalSdl.Token

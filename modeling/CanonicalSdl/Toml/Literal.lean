import CanonicalSdl.Reader
import CanonicalSdl.Text.Hexadecimal
import CanonicalSdl.Toml.Basic

/-!
# TOML literals

Booleans, numbers, dates and times. A literal is a run of letters, digits and signs, which has one
reading at most; only a date and a time may have a space between them.
-/

namespace CanonicalSdl.Toml

open Reader

/-! ### Numbers -/

/-- Whether a text is a run of digits, in which single underscores may stand between digits. -/
def isGrouped (isDigit : Char → Bool) : List Char → Bool
  | [] => false
  | [c] => isDigit c
  | c :: '_' :: cs => isDigit c && isGrouped isDigit cs
  | c :: cs => isDigit c && isGrouped isDigit cs

/-- Whether a text is a run of digits that begins with a zero only if it is nothing else. -/
def isWhole (cs : List Char) : Bool :=
  cs = ['0'] || (cs.head? != some '0' && isGrouped Char.isDigit cs)

/-- Whether a text is an exponent with its mark, or nothing. -/
def isExponentPart : List Char → Bool
  | [] => true
  | mark :: sign :: cs =>
    (mark = 'e' || mark = 'E') &&
      isGrouped Char.isDigit (if sign = '-' || sign = '+' then cs else sign :: cs)
  | _ => false

/-- Whether a character is a decimal digit or an underscore. -/
def isDigitOrUnderscore (c : Char) : Bool :=
  c.isDigit || c = '_'

/-- Whether a text can follow the whole part of a floating-point number. -/
def isFloatTail : List Char → Bool
  | '.' :: cs =>
    isGrouped Char.isDigit (cs.takeWhile isDigitOrUnderscore) &&
      isExponentPart (cs.dropWhile isDigitOrUnderscore)
  | cs => isExponentPart cs

/-- A text without its underscores. -/
def ungrouped (cs : List Char) : List Char :=
  cs.filter (· != '_')

/-- The value of digits in a base. -/
def valueIn? (base : Nat) (cs : List Char) : Option Nat :=
  cs.foldlM (fun n c => (Text.hexDigit? c).bind fun d =>
    if d < base then some (base * n + d) else none) 0

/-- The integer that digits after the mark of a base denote. -/
def ofBase? (base : Nat) (cs : List Char) : Option Value :=
  if isGrouped (fun c => (Text.hexDigit? c).any (· < base)) cs then
    ((valueIn? base (ungrouped cs)).bind (Decimal.int64? false)).map .integer
  else none

/-- The number that a text denotes after its sign. Numbers beyond the finite ones are not accepted,
unless they are negative. -/
def ofUnsigned? (negative : Bool) (cs : List Char) : Option Value :=
  let whole := cs.takeWhile isDigitOrUnderscore
  let tail := cs.dropWhile isDigitOrUnderscore
  if cs = ['i', 'n', 'f'] then some (.float (.infinity negative))
  else if cs = ['n', 'a', 'n'] then some (.float .nan)
  else if !isWhole whole then none
  else if tail.isEmpty then
    (Decimal.int64? negative (Decimal.valueOf (ungrouped whole))).map .integer
  else if isFloatTail tail then
    match Decimal.read? (ungrouped cs) with
    | some d =>
      let x := Binary64.ofDecimal negative d
      if x.isInfinite && !negative then none else some (.float x)
    | none => none
  else none

/-- The number that a text denotes. -/
def ofNumber? : List Char → Option Value
  | '0' :: 'x' :: cs => ofBase? 16 cs
  | '0' :: 'o' :: cs => ofBase? 8 cs
  | '0' :: 'b' :: cs => ofBase? 2 cs
  | '-' :: cs => ofUnsigned? true cs
  | '+' :: cs => ofUnsigned? false cs
  | cs => ofUnsigned? false cs

/-! ### Dates and times -/

/-- Reads a given number of digits. -/
def digits (count : Nat) : Reader Char Nat :=
  fun cs =>
    if (cs.take count).length = count && (cs.take count).all Char.isDigit then
      some (Decimal.valueOf (cs.take count), cs.drop count)
    else none

/-- Reads two digits whose value is in a range. -/
def twoDigits (low high : Nat) : Reader Char Nat := do
  let n ← digits 2
  if low ≤ n && n ≤ high then return n else failure

/-- The number of days of a month. -/
def daysIn (year month : Nat) : Nat :=
  if month = 2 then
    if (year % 4 = 0 && year % 100 != 0) || year % 400 = 0 then 29 else 28
  else if [4, 6, 9, 11].contains month then 30
  else 31

/-- Reads a date. -/
def date : Reader Char Unit := do
  let year ← digits 4
  item '-'
  let month ← twoDigits 1 12
  item '-'
  let _ ← twoDigits 1 (daysIn year month)

/-- Reads a time of day. The second may be a leap second. -/
def time : Reader Char Unit := do
  let _ ← twoDigits 0 23
  item ':'
  let _ ← twoDigits 0 59
  item ':'
  let _ ← twoDigits 0 60
  if ← accept '.' then
    let fraction ← takeWhile Char.isDigit
    if fraction.isEmpty then failure

/-- Reads the offset of a time from the universal time, if there is one. -/
def offset? : Reader Char Unit := do
  if ← acceptIf fun c => c = '+' || c = '-' then
    let _ ← twoDigits 0 23
    item ':'
    let _ ← twoDigits 0 59
  else
    let _ ← acceptIf fun c => c = 'Z' || c = 'z'

/-- Reads a time of day and its offset. -/
def offsetTime : Reader Char Unit := do
  time
  offset?

/-- Reads a date, and a time with an offset after it if the letter for it comes next. -/
def dateTime : Reader Char Unit := do
  date
  if ← acceptIf fun c => c = 'T' || c = 't' then offsetTime

/-! ### Literals -/

/-- Whether a character can be in a literal. -/
def isLiteralChar (c : Char) : Bool :=
  c.isAlphanum || c = '_' || c = '+' || c = '-' || c = '.' || c = ':'

/-- The value that a run of characters denotes. -/
def ofLiteral? (cs : List Char) : Option Value :=
  if cs = ['t', 'r', 'u', 'e'] then some (.boolean true)
  else if cs = ['f', 'a', 'l', 's', 'e'] then some (.boolean false)
  else if (complete dateTime cs).isSome || (complete time cs).isSome then
    some (.datetime (String.ofList cs))
  else ofNumber? cs

/-- Reads a literal. A digit in the next place but one after a date begins a time. -/
def literal : Reader Char Value := do
  let run ← takeWhile isLiteralChar
  let after ← get
  if (complete date run).isSome && after.head? = some ' ' && after.tail.head?.any Char.isDigit then
    item ' '
    let clock ← takeWhile isLiteralChar
    if (complete offsetTime clock).isSome then
      return .datetime (String.ofList (run ++ ' ' :: clock))
    else failure
  else
    match ofLiteral? run with
    | some value => return value
    | none => failure

end CanonicalSdl.Toml

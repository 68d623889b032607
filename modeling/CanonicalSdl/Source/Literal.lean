import CanonicalSdl.Document.Text
import CanonicalSdl.Text.Blank
import CanonicalSdl.Text.Lines
import CanonicalSdl.Text.TripleQuotes

/-!
# Literals in canonical source

The literals in the canonical text of operations and extensions. They differ from those of a
rendered schema: a string with line breaks is a block, set in by the indentation of the block of
source it stands in; numeric escapes are decimal; and numbers never have an exponent.
-/

namespace CanonicalSdl.Source

open Value (LiteralStyle)

/-- How much each nested block is indented. -/
def step : Nat := 2

/-- A number of spaces. -/
def spaces (n : Nat) : String :=
  String.ofList (List.replicate n ' ')

/-- Whether a character stands for itself in a string on one line, if it has no short escape. -/
def isPlain (c : Char) : Bool :=
  0x20 ≤ c.toNat && c.toNat ≤ 0xFFFF

/-- The written form of a character in a string on one line. -/
def escape (c : Char) : List Char :=
  if c = '\r' then ['\\', 'r']
  else if c = '\n' then ['\\', 'n']
  else if c = '\t' then ['\\', 't']
  else if c = '\\' then ['\\', '\\']
  else if c = '"' then ['\\', '"']
  else if isPlain c then [c]
  else '\\' :: 'u' :: (Nat.toDigits 10 c.toNat).leftpad 4 '0'

/-- A string on one line. -/
def quoted (s : String) : String :=
  "\"" ++ String.ofList (s.toList.flatMap escape) ++ "\""

/-- A line of a block string; blank lines are empty. -/
def blockLine (indent : Nat) (line : List Char) : String :=
  if line.all Text.isBlank then "\n"
  else spaces indent ++ String.ofList (Text.escapeTriples line) ++ "\n"

/-- A string as a block of lines, a step further in than where it stands. -/
def block (indent : Nat) (s : String) : String :=
  "\"\"\"\n" ++ String.join ((Text.lines s.toList).map (blockLine (indent + step))) ++
    spaces indent ++ "\"\"\""

/-- Whether a string is written as a block: it has a line break, and no character that would need
a numeric escape. -/
def isBlock (s : String) : Bool :=
  s.toList.contains '\n' &&
    s.toList.all fun c => isPlain c || c = '\n' || c = '\r' || c = '\t'

/-- The text of a string in a block of source with a given indentation. -/
def stringText (indent : Nat) (s : String) : String :=
  if isBlock s then block indent s else quoted s

/-- The style of literals in a block of source with a given indentation. -/
def literals (indent : Nat) : LiteralStyle where
  quote := stringText indent
  numbers := { scientific := fun _ => false, fractionAlways := false }

example : stringText 0 "a\"\x01😀" = "\"a\\\"\\u0001\\u128512\"" := by decide
example : stringText 2 "a\n\n\"\"\"b" = "\"\"\"\n    a\n\n    \\\"\"\"b\n  \"\"\"" := by decide

end CanonicalSdl.Source

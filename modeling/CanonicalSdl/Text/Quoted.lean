/-!
# Quoted strings

A string value is written between double quotes on one line. Line breaks, tabs, the quote and
the backslash have short escapes, every other control character a numeric one, and all other
characters stand for themselves.
-/

namespace CanonicalSdl.Text

/-- Whether a character is a control character: general category `Cc`. -/
def isControl (c : Char) : Bool :=
  c.toNat < 0x20 || (0x7F ≤ c.toNat && c.toNat ≤ 0x9F)

/-- A number in lower-case hexadecimal with at least four digits. -/
def fourHexDigits (n : Nat) : List Char :=
  (Nat.toDigits 16 n).leftpad 4 '0'

/-- The written form of a character inside a quoted string. -/
def escape (c : Char) : List Char :=
  if c = '\r' then ['\\', 'r']
  else if c = '\n' then ['\\', 'n']
  else if c = '\t' then ['\\', 't']
  else if c = '\\' then ['\\', '\\']
  else if c = '"' then ['\\', '"']
  else if isControl c then '\\' :: 'u' :: fourHexDigits c.toNat
  else [c]

/-- The quoted form of a string. -/
def quoted (s : String) : String :=
  "\"" ++ String.ofList (s.toList.flatMap escape) ++ "\""

example : quoted "a \"b\"\n\x1f\u0085é" = "\"a \\\"b\\\"\\n\\u001f\\u0085é\"" := by decide

end CanonicalSdl.Text

import CanonicalSdl.Reader
import CanonicalSdl.Text.Hexadecimal

/-!
# TOML strings

The four kinds of strings: with and without escapes, on one line and on several. Line breaks are
line feeds here.
-/

namespace CanonicalSdl.Toml

open Reader

/-- Whether a character can be in a string or comment of one line: control characters cannot,
except for tabs. -/
def isTextChar (c : Char) : Bool :=
  c = '\t' || (0x20 ≤ c.toNat && c.toNat != 0x7F)

/-- Whether a character is a blank within a line. -/
def isSpace (c : Char) : Bool :=
  c = ' ' || c = '\t'

/-! ### Escapes -/

/-- The character that a one-letter escape denotes. -/
def unescape? (c : Char) : Option Char :=
  if c = '"' || c = '\\' then some c
  else if c = 'b' then some '\x08'
  else if c = 'f' then some '\x0c'
  else if c = 'n' then some '\n'
  else if c = 'r' then some '\r'
  else if c = 't' then some '\t'
  else none

/-- Reads a given number of hexadecimal digits as a character. -/
def codePoint (count : Nat) : Reader Char Char :=
  fun cs =>
    if (cs.take count).length = count then
      ((Text.hexValue? (cs.take count)).bind Text.scalar?).map fun c => (c, cs.drop count)
    else none

/-- Reads what follows the backslash of an escape. -/
def escape : Reader Char Char
  | 'u' :: cs => codePoint 4 cs
  | 'U' :: cs => codePoint 8 cs
  | c :: cs => (unescape? c).map fun c => (c, cs)
  | [] => none

/-! ### Strings on one line -/

/-- Reads a character of a string with escapes. -/
def basicChar : Reader Char Char
  | '\\' :: cs => escape cs
  | c :: cs => if isTextChar c then some (c, cs) else none
  | [] => none

/-- Reads a string with escapes, from its opening quote on. -/
def basicString : Reader Char (List Char) := do
  item '"'
  let content ← many (· != '"') basicChar
  item '"'
  return content

/-- Reads a string without escapes, from its opening quote on. -/
def literalString : Reader Char (List Char) := do
  item '\''
  let content ← takeWhile fun c => isTextChar c && c != '\''
  item '\''
  return content

/-! ### Strings on several lines -/

/-- Splits off the content of a string on several lines, up to its closing quotes. Up to two more
quotes before these belong to the content, and so do quotes after a backslash in a string with
escapes. -/
def splitClosing? (quote : Char) : List Char → Option (List Char × List Char)
  | [] => none
  | c :: cs =>
    let run := ((c :: cs).takeWhile (· = quote)).length
    if 3 ≤ run then some (List.replicate (min run 5 - 3) quote, (c :: cs).drop (min run 5))
    else if c = '\\' && quote = '"' then
      match cs with
      | [] => none
      | d :: rest =>
        (splitClosing? quote rest).map fun (content, after) => (c :: d :: content, after)
    else (splitClosing? quote cs).map fun (content, after) => (c :: content, after)

/-- Reads what denotes one character in a string with escapes on several lines, or none: a
backslash at the end of a line takes all blanks and line breaks after it along. -/
def multilinePiece : Reader Char (List Char)
  | '\\' :: cs =>
    match cs.dropWhile isSpace with
    | '\n' :: rest => some ([], rest.dropWhile fun c => isSpace c || c = '\n')
    | _ => (escape cs).map fun (c, rest) => ([c], rest)
  | c :: cs => if isTextChar c || c = '\n' then some ([c], cs) else none
  | [] => none

/-- Content without a line break at its beginning. -/
def withoutFirstBreak : List Char → List Char
  | '\n' :: cs => cs
  | cs => cs

/-- Reads a string with escapes on several lines, after its opening quotes. -/
def multilineBasicString : Reader Char (List Char) := fun cs => do
  let (raw, rest) ← splitClosing? '"' (withoutFirstBreak cs)
  let pieces ← complete (many (fun _ => true) multilinePiece) raw
  return (pieces.flatten, rest)

/-- Reads a string without escapes on several lines, after its opening quotes. -/
def multilineLiteralString : Reader Char (List Char) := fun cs => do
  let (raw, rest) ← splitClosing? '\'' (withoutFirstBreak cs)
  if raw.all fun c => isTextChar c || c = '\n' then return (raw, rest) else none

/-- Reads a string of any kind. -/
def string : Reader Char (List Char)
  | '"' :: '"' :: '"' :: cs => multilineBasicString cs
  | '\'' :: '\'' :: '\'' :: cs => multilineLiteralString cs
  | '\'' :: cs => literalString ('\'' :: cs)
  | cs => basicString cs

end CanonicalSdl.Toml

import CanonicalSdl.Decimal.Binary64

/-!
# Tokens

The lexical tokens of the schema language. Numbers and strings are held by their values: what a
literal denotes is settled when it is read.
-/

namespace CanonicalSdl

/-- A lexical token. -/
inductive Token where
  /-- One of the characters of `Token.punctuators`. -/
  | punctuator (c : Char)
  /-- Three dots. -/
  | spread
  | name (name : String)
  | int (i : Int64)
  | float (x : Binary64)
  /-- A string literal in either of its two forms. -/
  | string (s : String)
  deriving DecidableEq

namespace Token

/-- The characters that are tokens on their own. -/
def punctuators : List Char :=
  ['(', ')', '[', ']', '\x7b', '\x7d', '!', '$', ':', '=', '@', '|', '&']

/-- Whether a name may begin with a character. -/
def isNameStart (c : Char) : Bool :=
  c = '_' || c.isAlpha

/-- Whether a name may go on with a character. -/
def isNamePart (c : Char) : Bool :=
  c = '_' || c.isAlphanum

/-- Whether a text is a name. -/
def isName (s : String) : Bool :=
  match s.toList with
  | [] => false
  | c :: cs => isNameStart c && cs.all isNamePart

/-- Whether a character may stand between tokens without meaning anything. -/
def isIgnored (c : Char) : Bool :=
  c = ' ' || c = '\t' || c = '\r' || c = '\n' || c = ',' || c = '\ufeff'

/-- Whether a character ends a number. Every other character belongs to it, even one that makes
the number invalid. -/
def endsNumber (c : Char) : Bool :=
  c = ' ' || c = '\t' || c = '\r' || c = '\n' || c = ',' || c = '#' || punctuators.contains c

end Token

end CanonicalSdl

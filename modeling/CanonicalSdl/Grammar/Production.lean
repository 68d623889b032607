import CanonicalSdl.Reader
import CanonicalSdl.Token.Basic

/-!
# Productions

The readers of tokens, one for each construct of the grammar, and those of single tokens and of
bracketed lists.
-/

namespace CanonicalSdl

/-- A reader of tokens. -/
abbrev Production : Type → Type :=
  Reader Token

namespace Production

open Reader

/-- Reads a given punctuator. -/
def punctuator (c : Char) : Production Unit :=
  item (.punctuator c)

/-- Reads one given name. -/
def keyword (word : String) : Production Unit :=
  item (.name word)

/-- Reads any name. -/
def name : Production String
  | .name s :: rest => some (s, rest)
  | _ => none

/-- Reads a name if one comes next. -/
def name? : Production (Option String)
  | .name s :: rest => some (some s, rest)
  | rest => some (none, rest)

/-- Reads a string if one comes next. -/
def string? : Production (Option String)
  | .string s :: rest => some (some s, rest)
  | rest => some (none, rest)

/-- Whether a token is a name. -/
def isName : Token → Bool
  | .name _ => true
  | _ => false

/-- Whether a token is a name or a string, which can stand before a name as its description. -/
def isNameOrString : Token → Bool
  | .name _ => true
  | .string _ => true
  | _ => false

/-- Reads constructs, at least one, between two punctuators. -/
def enclosed (opening closing : Char) (begins : Token → Bool) (construct : Production α) :
    Production (List α) := do
  punctuator opening
  let items ← many1 begins construct
  punctuator closing
  return items

/-- Reads constructs between two punctuators, if the opening one comes next; with no such list
there are none. -/
def enclosed? (opening closing : Char) (begins : Token → Bool) (construct : Production α) :
    Production (List α) := do
  if (← next) = some (.punctuator opening) then enclosed opening closing begins construct
  else return []

end Production

end CanonicalSdl

import CanonicalSdl.Token.BlockString
import CanonicalSdl.Token.Number
import CanonicalSdl.Token.StringLiteral

/-!
# Reading tokens

A text is read into its tokens from left to right, each as long as it can be. Blanks, commas and
comments between tokens are skipped. A text with a character that begins no token has no reading,
nor has one that opens more than `maxNesting` brackets at once.
-/

namespace CanonicalSdl.Token

/-- Skips what may stand between tokens. A comment goes from a number sign to the end of its
line; the flag tells whether the text begins inside one. -/
def skip (inComment : Bool) : List Char → List Char
  | [] => []
  | c :: cs =>
    if inComment then skip (!(c = '\n' || c = '\r')) cs
    else if c = '#' then skip true cs
    else if isIgnored c then skip false cs
    else c :: cs

/-- Reads the token at the beginning of a text, and returns the text after it. -/
def scan? : List Char → Option (Token × List Char)
  | [] => none
  | '"' :: '"' :: '"' :: cs =>
    (scanBlock? cs).map fun (content, rest) => (string (String.ofList (blockContent content)), rest)
  | '"' :: cs => (scanString? cs).map fun (content, rest) => (string (String.ofList content), rest)
  | '.' :: '.' :: '.' :: cs => some (spread, cs)
  | c :: cs =>
    if punctuators.contains c then some (punctuator c, cs)
    else if isNameStart c then
      some (name (String.ofList (c :: cs.takeWhile isNamePart)), cs.dropWhile isNamePart)
    else if c = '-' || c.isDigit then
      (ofNumber? (c :: cs.takeWhile (!endsNumber ·))).map fun token =>
        (token, cs.dropWhile (!endsNumber ·))
    else none

/-- Skipping makes no text longer. -/
theorem length_skip_le (inComment : Bool) (cs : List Char) :
    (skip inComment cs).length ≤ cs.length := by
  fun_induction skip inComment cs <;> simp_all <;> omega

/-- A token is not empty, so that what follows it is shorter. -/
theorem length_lt_of_scan? {cs rest : List Char} {token : Token}
    (h : scan? cs = some (token, rest)) : rest.length < cs.length := by
  have dropWhile_le (p : Char → Bool) (l : List Char) : (l.dropWhile p).length ≤ l.length :=
    (List.dropWhile_sublist p).length_le
  -- every case takes the first character at least
  revert h
  fun_cases scan? cs with
  | case1 => simp
  | case2 tail =>
    intro h
    obtain ⟨⟨content, after⟩, hs, h⟩ := Option.map_eq_some_iff.1 h
    simp only [Prod.mk.injEq] at h
    have := length_lt_of_scanBlock? hs
    simp only [← h.2, List.length_cons]
    omega
  | case3 tail =>
    intro h
    obtain ⟨⟨content, after⟩, hs, h⟩ := Option.map_eq_some_iff.1 h
    simp only [Prod.mk.injEq] at h
    have := length_lt_of_scanString? hs
    simp only [← h.2, List.length_cons]
    omega
  | case4 tail =>
    intro h
    simp only [Option.some.injEq, Prod.mk.injEq] at h
    simp only [← h.2, List.length_cons]
    omega
  | case5 c tail =>
    intro h
    simp only [Option.some.injEq, Prod.mk.injEq] at h
    simp only [← h.2, List.length_cons]
    omega
  | case6 c tail =>
    intro h
    simp only [Option.some.injEq, Prod.mk.injEq] at h
    have := dropWhile_le isNamePart tail
    simp only [← h.2, List.length_cons]
    omega
  | case7 c tail =>
    intro h
    obtain ⟨token', hs, h⟩ := Option.map_eq_some_iff.1 h
    simp only [Prod.mk.injEq] at h
    have := dropWhile_le (!endsNumber ·) tail
    simp only [← h.2, List.length_cons]
    omega
  | case8 => simp

/-- Reads the tokens of a text. -/
def tokenize? (cs : List Char) : Option (List Token) :=
  if (skip false cs).isEmpty then some []
  else
    match _h : scan? (skip false cs) with
    | none => none
    | some (token, rest) => (tokenize? rest).map (token :: ·)
termination_by cs.length
decreasing_by exact Nat.lt_of_lt_of_le (length_lt_of_scan? ‹_›) (length_skip_le false cs)

/-! ### Nesting -/

/-- How many brackets may be open at once. -/
def maxNesting : Nat := 50

/-- Whether a token opens a bracket. -/
def opens (token : Token) : Bool :=
  token = punctuator '(' || token = punctuator '[' || token = punctuator '\x7b'

/-- Whether a token closes a bracket. -/
def closes (token : Token) : Bool :=
  token = punctuator ')' || token = punctuator ']' || token = punctuator '\x7d'

/-- Whether tokens never have more brackets open at once than there is room for. -/
def nests (room : Nat) : List Token → Bool
  | [] => true
  | token :: tokens =>
    if token.opens then
      match room with
      | 0 => false
      | room + 1 => nests room tokens
    else if token.closes then nests (room + 1) tokens
    else nests room tokens

/-- The tokens of a text. -/
def ofText? (text : String) : Option (List Token) :=
  (tokenize? text.toList).filter (nests maxNesting)

example : ofText? "a # b\n,[1]...\"\"\"x\"\"\"" =
    some [name "a", punctuator '[', int 1, punctuator ']', spread, string "x"] := by
  decide +kernel
example : ofText? "a ." = none := by decide +kernel

end CanonicalSdl.Token

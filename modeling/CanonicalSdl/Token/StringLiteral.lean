import CanonicalSdl.Text.Hexadecimal

/-!
# String literals on one line

The text between two double quotes, with escapes after a backslash. A line feed may not stand in
it; other control characters may.
-/

namespace CanonicalSdl.Token

/-- The character that the four characters of a numeric escape denote. The first of them may be a
plus sign. -/
def codePoint? (cs : List Char) : Option Char :=
  (Text.hexValue? (if cs.head? = some '+' then cs.tail else cs)).bind Text.scalar?

/-- The character that a one-letter escape denotes. -/
def unescape? (c : Char) : Option Char :=
  if c = '"' || c = '\\' || c = '/' then some c
  else if c = 'b' then some '\x10'
  else if c = 'f' then some '\x0c'
  else if c = 'n' then some '\n'
  else if c = 'r' then some '\r'
  else if c = 't' then some '\t'
  else none

/-- Reads what follows an opening quote: the characters denoted up to the closing quote, and the
text after it. -/
def scanString? : List Char → Option (List Char × List Char)
  | [] => none
  | '"' :: rest => some ([], rest)
  | '\n' :: _ => none
  | '\\' :: 'u' :: a :: b :: c :: d :: rest =>
    match codePoint? [a, b, c, d], scanString? rest with
    | some x, some (content, after) => some (x :: content, after)
    | _, _ => none
  | '\\' :: c :: rest =>
    match unescape? c, scanString? rest with
    | some x, some (content, after) => some (x :: content, after)
    | _, _ => none
  | c :: rest =>
    match scanString? rest with
    | some (content, after) => some (c :: content, after)
    | none => none

/-- A string literal is not empty, so that what follows it is shorter. -/
theorem length_lt_of_scanString? {cs content rest : List Char}
    (h : scanString? cs = some (content, rest)) : rest.length < cs.length := by
  fun_induction scanString? cs generalizing content rest with
  | case1 => simp at h
  | case2 => simp_all
  | case3 => simp at h
  | case4 a b c d tail x content' after hs hx ih =>
    simp only [Option.some.injEq, Prod.mk.injEq] at h
    have := ih hs
    simp only [← h.2, List.length_cons]
    omega
  | case5 => simp at h
  | case6 c tail _ x content' after hs hx ih =>
    simp only [Option.some.injEq, Prod.mk.injEq] at h
    have := ih hs
    simp only [← h.2, List.length_cons]
    omega
  | case7 => simp at h
  | case8 c tail _ _ _ _ content' after hs ih =>
    simp only [Option.some.injEq, Prod.mk.injEq] at h
    have := ih hs
    simp only [← h.2, List.length_cons]
    omega
  | case9 => simp at h

example : scanString? "a\\\"\\u00e9\\b\" b".toList = some ("a\"é\x10".toList, " b".toList) := by
  decide
example : scanString? "\\u+041\"".toList = some (['A'], []) := by decide
example : scanString? "\\ud83d\"".toList = none := by decide
example : scanString? "a\nb\"".toList = none := by decide

end CanonicalSdl.Token

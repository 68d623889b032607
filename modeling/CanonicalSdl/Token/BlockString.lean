import CanonicalSdl.Text.Blank
import CanonicalSdl.Text.Lines
import CanonicalSdl.Text.TripleQuotes

/-!
# Block strings

The text between two runs of three quotes. It has one escape, a backslash before three quotes,
which stands for the quotes. Blank lines at either end do not belong to its value, nor does the
indentation that all lines after the first share.
-/

namespace CanonicalSdl.Token

/-- Reads what follows the opening quotes of a block string: its text as written, up to the
closing quotes, and the text after them. -/
def scanBlock? : List Char → Option (List Char × List Char)
  | [] => none
  | '\\' :: '"' :: '"' :: '"' :: rest =>
    (scanBlock? rest).map fun (content, after) => ('\\' :: '"' :: '"' :: '"' :: content, after)
  | '"' :: '"' :: '"' :: rest => some ([], rest)
  | c :: rest => (scanBlock? rest).map fun (content, after) => (c :: content, after)

/-- A block string has closing quotes, so that what follows it is shorter. -/
theorem length_lt_of_scanBlock? {cs content rest : List Char}
    (h : scanBlock? cs = some (content, rest)) : rest.length < cs.length := by
  fun_induction scanBlock? cs generalizing content rest with
  | case1 => simp at h
  | case2 tail ih =>
    obtain ⟨⟨content', after⟩, hs, h⟩ := Option.map_eq_some_iff.1 h
    simp only [Prod.mk.injEq] at h
    have := ih hs
    simp only [← h.2, List.length_cons]
    omega
  | case3 tail =>
    simp only [Option.some.injEq, Prod.mk.injEq] at h
    simp only [← h.2, List.length_cons]
    omega
  | case4 c tail _ _ ih =>
    obtain ⟨⟨content', after⟩, hs, h⟩ := Option.map_eq_some_iff.1 h
    simp only [Prod.mk.injEq] at h
    have := ih hs
    simp only [← h.2, List.length_cons]
    omega

/-! ### The value of a block string -/

/-- How many bytes a text takes. -/
def byteLength : List Char → Nat
  | [] => 0
  | c :: cs => c.utf8Size + byteLength cs

/-- A text without its first bytes; a character of which a byte goes goes as a whole. -/
def dropBytes (n : Nat) : List Char → List Char
  | [] => []
  | c :: cs => if n = 0 then c :: cs else dropBytes (n - c.utf8Size) cs

/-- Whether a line has nothing but blanks. -/
def isBlankLine (line : List Char) : Bool :=
  line.all Text.isBlank

/-- The indentation of a line in bytes. -/
def indentation (line : List Char) : Nat :=
  byteLength (line.takeWhile Text.isBlank)

/-- The indentation that the lines share, blank lines aside. -/
def commonIndentation (lines : List (List Char)) : Nat :=
  ((lines.filter (!isBlankLine ·)).map indentation).min?.getD 0

/-- A line without the shared indentation; a line that is shorter stays as it is. -/
def dedentLine (shared : Nat) (line : List Char) : List Char :=
  if shared ≤ byteLength line then dropBytes shared line else line

/-- Lines without the indentation they share. The first one has none, as it follows the opening
quotes. -/
def dedent : List (List Char) → List (List Char)
  | [] => []
  | first :: others => first :: others.map (dedentLine (commonIndentation others))

/-- Lines without blank ones at either end. -/
def trimBlankLines (lines : List (List Char)) : List (List Char) :=
  ((lines.dropWhile isBlankLine).reverse.dropWhile isBlankLine).reverse

/-- The value of a block string from its text. -/
def blockContent (content : List Char) : List Char :=
  Text.joinLines ((trimBlankLines (dedent (Text.lines content))).map Text.unescapeTriples)

example : blockContent "\n    a\n\n      \\\"\"\"b\n  ".toList = "a\n\n  \"\"\"b".toList :=
  by decide
example : blockContent " \n \n".toList = [] := by decide
example : blockContent "  a\n    b".toList = "  a\nb".toList := by decide

end CanonicalSdl.Token

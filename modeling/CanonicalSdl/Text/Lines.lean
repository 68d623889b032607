/-!
# Lines

The lines of a text, and what marks a line that has nothing to show.
-/

namespace CanonicalSdl.Text

/-- The lines of a text. A line ends at a line feed, which takes one carriage return right before
it along; no line begins after a final line feed. -/
def lines : List Char → List (List Char)
  | [] => []
  | '\n' :: cs => [] :: lines cs
  | '\r' :: '\n' :: cs => [] :: lines cs
  | c :: cs =>
    match lines cs with
    | [] => [[c]]
    | line :: rest => (c :: line) :: rest

/-- Texts joined by line feeds. -/
def joinLines (texts : List (List Char)) : List Char :=
  ['\n'].intercalate texts

example : lines "a\r\nb\r\r\n\nc\r".toList =
    ["a".toList, "b\r".toList, [], "c\r".toList] := by decide
example : lines "a\n".toList = ["a".toList] := by decide

end CanonicalSdl.Text

/-!
# Three quotes

Three quotes end a block string, unless a backslash stands right before them. Escaping puts the
backslash there, and resolving the escapes takes it away again.
-/

namespace CanonicalSdl.Text

/-- A text with a backslash before every run of three quotes, taken from left to right. -/
def escapeTriples : List Char → List Char
  | [] => []
  | '"' :: '"' :: '"' :: rest => '\\' :: '"' :: '"' :: '"' :: escapeTriples rest
  | c :: rest => c :: escapeTriples rest

/-- A text without the backslashes that stand before three quotes. -/
def unescapeTriples : List Char → List Char
  | [] => []
  | '\\' :: '"' :: '"' :: '"' :: rest => '"' :: '"' :: '"' :: unescapeTriples rest
  | c :: rest => c :: unescapeTriples rest

example : escapeTriples "a\"\"\"\"".toList = "a\\\"\"\"\"".toList := by decide
example : unescapeTriples "\\\\\"\"\"".toList = "\\\"\"\"".toList := by decide

end CanonicalSdl.Text

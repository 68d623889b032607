import CanonicalSdl.Toml.Assembly
import CanonicalSdl.Toml.Literal
import CanonicalSdl.Toml.Text

/-!
# Reading TOML

The entries of a TOML text, in the order in which they come to stand.
-/

namespace CanonicalSdl.Toml

open Reader

/-! ### What stands between -/

/-- Reads the blanks of a line. -/
def spaces : Reader Char Unit := do
  let _ ← takeWhile isSpace

/-- Reads a comment if one comes next, without the line break after it. -/
def comment? : Reader Char Unit := do
  if ← accept '#' then
    let _ ← takeWhile isTextChar

/-- Reads to the end of a line, where nothing but a comment may stand. -/
def endOfLine : Reader Char Unit := do
  spaces
  comment?
  if (← next).isSome then item '\n'

/-- Reads blanks, line breaks and comments. A comment is followed by a line break. -/
def layout : Reader Char Unit := do
  let _ ← many (fun c => isSpace c || c = '\n' || c = '#') do
    if (← next) = some '#' then
      comment?
      item '\n'
    else
      let _ ← takeWhile fun c => isSpace c || c = '\n'

/-! ### Keys -/

/-- Whether a character can be in a key without quotes. -/
def isBareKeyChar (c : Char) : Bool :=
  c.isAlphanum || c = '_' || c = '-'

/-- Reads one key of a path, with the blanks around it. -/
def simpleKey : Reader Char String := do
  spaces
  let first ← next
  let key ← if first = some '"' then basicString
    else if first = some '\'' then literalString
    else takeWhile isBareKeyChar
  if key.isEmpty && first != some '"' && first != some '\'' then failure
  spaces
  return String.ofList key

/-- How deep values nest, and how many keys a path has, at most. -/
def maxDepth : Nat := 79

/-- Reads a path of keys. -/
def keyPath : Reader Char KeyPath := do
  let keys ← separated '.' simpleKey
  match keys.getLast? with
  | some last => if keys.length ≤ maxDepth then return ⟨keys.dropLast, last⟩ else failure
  | none => failure

/-! ### Values -/

/-- Reads an element of an array and the comma after it, which only the last one may lack. -/
def element (value : Reader Char Value) : Reader Char Value := do
  let element ← value
  layout
  if ← accept ',' then layout
  else if (← next) != some ']' then failure
  return element

/-- Reads an array after its opening bracket. -/
def arrayAfter (value : Reader Char Value) : Reader Char Value := do
  layout
  let elements ← many (· != ']') (element value)
  item ']'
  return .array elements

/-- Reads an entry of an inline table. -/
def inlineEntry (value : Reader Char Value) : Reader Char (KeyPath × Value) := do
  let path ← keyPath
  item '='
  spaces
  let value ← value
  spaces
  return (path, value)

/-- Reads an inline table after its opening brace. -/
def inlineTableAfter (value : Reader Char Value) : Reader Char Value := do
  spaces
  let entries ← if (← next) = some '\x7d' then pure [] else separated ',' (inlineEntry value)
  item '\x7d'
  match inlineTable? entries with
  | some table => return table
  | none => failure

/-- Reads a value that is no array or inline table. -/
def scalar : Reader Char Value := do
  let first ← next
  if first = some '"' || first = some '\'' then return .string (String.ofList (← string))
  else literal

/-- Reads a value in which at most `depth` arrays and inline tables are nested. -/
def valueOfDepth : Nat → Reader Char Value
  | 0 => scalar
  | depth + 1 => do
    if ← accept '[' then arrayAfter (valueOfDepth depth)
    else if ← accept '\x7b' then inlineTableAfter (valueOfDepth depth)
    else scalar

/-! ### Statements -/

/-- Reads a statement in a line. -/
def statement : Reader Char Statement := do
  if ← accept '[' then
    if ← accept '[' then
      let path ← keyPath
      item ']'
      item ']'
      return .elementHeader path
    else
      let path ← keyPath
      item ']'
      return .tableHeader path
  else
    let path ← keyPath
    item '='
    spaces
    return .entry path (← valueOfDepth maxDepth)

/-- Reads a line, which may have no statement. -/
def line : Reader Char (Option Statement) := do
  spaces
  let first ← next
  if first.isNone || first = some '#' || first = some '\n' then
    endOfLine
    return none
  else
    let statement ← statement
    endOfLine
    return some statement

/-- A text with line feeds for its line breaks. -/
def withLineFeeds : List Char → List Char
  | [] => []
  | '\r' :: '\n' :: cs => '\n' :: withLineFeeds cs
  | c :: cs => c :: withLineFeeds cs

/-- A text without a byte order mark at its beginning. -/
def withoutMark : List Char → List Char
  | '\ufeff' :: cs => cs
  | cs => cs

/-- The top-level entries of a text, if it is well formed. -/
def entries? (text : String) : Option (List (String × Value)) := do
  let cs := withLineFeeds (withoutMark text.toList)
  let statements ← complete (many (fun _ => true) line) cs
  assemble? (statements.filterMap id)

end CanonicalSdl.Toml

import CanonicalSdl.Toml.Basic

/-!
# Assembling TOML tables

A text defines its tables in pieces: by headers, by the paths in headers, and by dotted keys. A
table that is being assembled remembers which of these it came from, as that decides what may be
added to it:

* a table with a header of its own may not get another, and dotted keys do not reach into it;
* a table that only stands in the path of a header may get one, and then stands behind the entries
  that were there before;
* a table made by dotted keys may not get a header.

Values are complete when they are read, and nothing is added to them.
-/

namespace CanonicalSdl.Toml

/-- What brought a table into being. -/
inductive Origin where
  /-- A header of its own. -/
  | header
  /-- The path of a header. -/
  | path
  /-- A dotted key. -/
  | dotted
  deriving DecidableEq

/-- A part of a text that is being assembled. -/
inductive Node where
  | value (v : Value)
  | table (origin : Origin) (entries : List (String × Node))
  /-- An array of tables. Only the last one can still grow. -/
  | tables (nodes : List Node)

namespace Node

mutual

/-- The value of a node. -/
def toValue : Node → Value
  | value v => v
  | table _ entries => .table (entryValues entries)
  | tables nodes => .array (values nodes)

/-- The values of nodes. -/
def values : List Node → List Value
  | [] => []
  | node :: nodes => node.toValue :: values nodes

/-- Entries with the values of their nodes. -/
def entryValues : List (String × Node) → List (String × Value)
  | [] => []
  | (key, node) :: entries => (key, node.toValue) :: entryValues entries

end

/-! ### Entries -/

/-- The entries of a table, in order. -/
abbrev Entries := List (String × Node)

/-- Entries in which a key that is there has another node. -/
def replace (key : String) (node : Node) (entries : Entries) : Entries :=
  entries.map fun entry => if entry.1 = key then (key, node) else entry

/-- Changes the entries of the last of some tables. -/
def changeLast (change : Entries → Option Entries) : List Node → Option (List Node)
  | [] => none
  | [table origin entries] => (change entries).map fun entries => [table origin entries]
  | [_] => none
  | node :: nodes => (changeLast change nodes).map (node :: ·)

/-- Changes the entries of the table under a key. In an array of tables the last one is meant; a
table that is not there is made, with a given origin. Dotted keys do not reach into a table with a
header. -/
def change (key : String) (origin : Origin) (inside : Entries → Option Entries)
    (entries : Entries) : Option Entries :=
  match entries.lookup key with
  | none => (inside []).map fun sub => entries ++ [(key, table origin sub)]
  | some (table .header sub) =>
    if origin = .dotted then none
    else (inside sub).map fun sub => replace key (table .header sub) entries
  | some (table existing sub) =>
    (inside sub).map fun sub => replace key (table existing sub) entries
  | some (tables nodes) =>
    (changeLast inside nodes).map fun nodes => replace key (tables nodes) entries
  | some (value _) => none

/-- Adds a value under a key that is not there yet. -/
def add (key : String) (v : Value) (entries : Entries) : Option Entries :=
  if (entries.lookup key).isSome then none else some (entries ++ [(key, value v)])

/-- Whether the table under a key, if there is one, came from dotted keys. -/
def isDotted (key : String) (entries : Entries) : Bool :=
  match entries.lookup key with
  | none => true
  | some (table .dotted _) => true
  | _ => false

/-- Adds a value under a dotted key, given as the keys before the last and the last. The table
that the value goes into has to come from dotted keys itself. -/
def addDotted (last : String) (v : Value) : List String → Entries → Option Entries
  | [], entries => add last v entries
  | [key], entries =>
    if isDotted key entries then change key .dotted (add last v) entries else none
  | key :: keys, entries => change key .dotted (addDotted last v keys) entries

/-- Changes the entries of the table at a path that a header has opened. -/
def changeAt (inside : Entries → Option Entries) : List String → Entries → Option Entries
  | [], entries => inside entries
  | key :: keys, entries => change key .path (changeAt inside keys) entries

/-! ### Headers -/

/-- Opens a table under a key. -/
def openTable (key : String) (entries : Entries) : Option Entries :=
  match entries.lookup key with
  | none => some (entries ++ [(key, table .header [])])
  | some (table .path sub) =>
    some (entries.filter (·.1 != key) ++ [(key, table .header sub)])
  | some _ => none

/-- Opens another table of an array of tables under a key. -/
def openElement (key : String) (entries : Entries) : Option Entries :=
  match entries.lookup key with
  | none => some (entries ++ [(key, tables [table .header []])])
  | some (tables nodes) => some (replace key (tables (nodes ++ [table .header []])) entries)
  | some _ => none

end Node

/-! ### Statements -/

/-- A key path: the keys before the last, and the last. -/
structure KeyPath where
  front : List String
  last : String

/-- A line of a text. -/
inductive Statement where
  | entry (path : KeyPath) (v : Value)
  | tableHeader (path : KeyPath)
  | elementHeader (path : KeyPath)

/-- A text that is being assembled: its entries so far, and the path of the open table. -/
structure Assembly where
  entries : Node.Entries := []
  path : List String := []

/-- Adds a statement. -/
def Assembly.add (a : Assembly) : Statement → Option Assembly
  | .entry path v =>
    (Node.changeAt (Node.addDotted path.last v path.front) a.path a.entries).map
      fun entries => { a with entries }
  | .tableHeader path =>
    (Node.changeAt (Node.openTable path.last) path.front a.entries).map
      fun entries => { entries, path := path.front ++ [path.last] }
  | .elementHeader path =>
    (Node.changeAt (Node.openElement path.last) path.front a.entries).map
      fun entries => { entries, path := path.front ++ [path.last] }

/-- The entries that statements define, in order. -/
def assemble? (statements : List Statement) : Option (List (String × Value)) :=
  (statements.foldlM Assembly.add {}).map fun a => Node.entryValues a.entries

/-- Adds an entry of an inline table to those before it. -/
def addInline (table : Node.Entries) (entry : KeyPath × Value) : Option Node.Entries :=
  Node.addDotted entry.1.last entry.2 entry.1.front table

/-- The table that the entries of an inline table define. -/
def inlineTable? (entries : List (KeyPath × Value)) : Option Value :=
  (entries.foldlM addInline []).map fun table => .table (Node.entryValues table)

end CanonicalSdl.Toml

/-!
# Readers

A reader takes a construct off the beginning of a list of symbols, which are tokens or
characters. Every choice is made on the next symbol alone, and never taken back: once a construct
has begun with a symbol that only it begins with, it has to be complete.
-/

namespace CanonicalSdl

/-- A reader of symbols, which returns what it read and the symbols after it, or fails. -/
abbrev Reader (σ : Type) : Type → Type :=
  StateT (List σ) Option

namespace Reader

variable {σ α β : Type} [DecidableEq σ]

/-- The next symbol, which stays where it is. -/
def next : Reader σ (Option σ) :=
  fun symbols => some (symbols.head?, symbols)

/-- Reads one given symbol. -/
def item (expected : σ) : Reader σ Unit
  | symbol :: rest => if symbol = expected then some ((), rest) else none
  | [] => none

/-- Reads the next symbol if it has a given property, and tells whether it did. -/
def acceptIf (p : σ → Bool) : Reader σ Bool
  | symbol :: rest => if p symbol then some (true, rest) else some (false, symbol :: rest)
  | [] => some (false, [])

/-- Reads a given symbol if it comes next, and tells whether it did. -/
def accept (expected : σ) : Reader σ Bool :=
  acceptIf (· = expected)

/-- Reads the symbols up to the first one that has not a given property. -/
def takeWhile (p : σ → Bool) : Reader σ (List σ) :=
  fun symbols => some (symbols.takeWhile p, symbols.dropWhile p)

/-- Reads constructs as long as the next symbol can begin one, but at most `limit` of them. -/
def upTo (begins : σ → Bool) (construct : Reader σ α) : Nat → Reader σ (List α)
  | 0, symbols => some ([], symbols)
  | _ + 1, [] => some ([], [])
  | limit + 1, symbol :: symbols =>
    if begins symbol then
      match construct (symbol :: symbols) with
      | none => none
      | some (a, rest) =>
        match upTo begins construct limit rest with
        | none => none
        | some (as, rest) => some (a :: as, rest)
    else some ([], symbol :: symbols)

/-- Reads constructs as long as the next symbol can begin one. A construct takes at least one
symbol, so that there are no more of them than symbols. -/
def many (begins : σ → Bool) (construct : Reader σ α) : Reader σ (List α) :=
  fun symbols => upTo begins construct symbols.length symbols

/-- Reads constructs as long as the next symbol can begin one, and at least one. -/
def many1 (begins : σ → Bool) (construct : Reader σ α) : Reader σ (List α) := do
  let first ← construct
  let others ← many begins construct
  return first :: others

/-- Reads one or more constructs with a separator between them. -/
def separated (separator : σ) (construct : Reader σ α) : Reader σ (List α) := do
  let first ← construct
  let others ← many (· = separator) (do item separator; construct)
  return first :: others

/-- What a construct denotes that takes all symbols. -/
def complete (construct : Reader σ α) (symbols : List σ) : Option α :=
  match construct symbols with
  | some (a, []) => some a
  | _ => none

end Reader

end CanonicalSdl

import CanonicalSdl.Toml.Reading
import CanonicalSdl.Toml.Words

/-!
# Render settings

How a schema is rendered, and reading it from TOML. The settings are a table with the entries
`indent`, an integer from 0 to 16, and `descriptions`, a boolean; a missing entry has its default.
Of several faults the first in the table is reported.
-/

namespace CanonicalSdl

/-- The greatest number of spaces per level of indentation. -/
def indentLimit : Nat := 16

/-- How a schema is rendered. -/
structure RenderSettings where
  /-- The number of spaces per level of indentation. Rendering takes no more than `indentLimit`. -/
  indent : Nat := 2
  /-- Whether descriptions are rendered. -/
  descriptions : Bool := true
  deriving DecidableEq

/-- What is wrong with settings. -/
inductive SettingsError where
  /-- The text is not TOML. -/
  | malformed
  /-- An entry has neither of the two keys. -/
  | unknownKey (key : String)
  /-- The indentation is not an integer. -/
  | indentNotInteger (found : Toml.Value)
  /-- The indentation is a negative integer. -/
  | indentNegative (found : Toml.Value)
  /-- The indentation is too large. -/
  | indentTooLarge (indent : Nat)
  /-- The choice whether to render descriptions is not a boolean. -/
  | descriptionsNotBoolean (found : Toml.Value)

/-- The text of an error. A text that is not TOML has none. -/
def SettingsError.message? : SettingsError → Option String
  | malformed => none
  | unknownKey key =>
    some ("unknown field \x60" ++ key ++ "\x60, expected \x60indent\x60 or \x60descriptions\x60")
  | indentNotInteger found => some ("invalid type: " ++ found.words ++ ", expected usize")
  | indentNegative found => some ("invalid value: " ++ found.words ++ ", expected usize")
  | indentTooLarge indent =>
    some ("indent must be at most " ++ toString indentLimit ++ ", got " ++ toString indent)
  | descriptionsNotBoolean found =>
    some ("invalid type: " ++ found.words ++ ", expected a boolean")

namespace RenderSettings

/-- The spaces of one level of indentation. -/
def spaces (c : RenderSettings) : String :=
  String.ofList (List.replicate (min c.indent indentLimit) ' ')

/-- Reads the number of spaces per level. -/
def readIndent : Toml.Value → Except SettingsError Nat
  | .integer i =>
    if i < 0 then .error (.indentNegative (.integer i))
    else if indentLimit < i.toInt.toNat then .error (.indentTooLarge i.toInt.toNat)
    else .ok i.toInt.toNat
  | found => .error (.indentNotInteger found)

/-- Reads whether descriptions are rendered. -/
def readDescriptions : Toml.Value → Except SettingsError Bool
  | .boolean b => .ok b
  | found => .error (.descriptionsNotBoolean found)

/-- Takes one entry of a table over into settings. -/
def set (c : RenderSettings) (key : String) (v : Toml.Value) :
    Except SettingsError RenderSettings :=
  if key = "indent" then (readIndent v).map fun indent => { c with indent }
  else if key = "descriptions" then
    (readDescriptions v).map fun descriptions => { c with descriptions }
  else .error (.unknownKey key)

/-- The settings that the entries of a table give. -/
def ofEntries (entries : List (String × Toml.Value)) : Except SettingsError RenderSettings :=
  entries.foldlM (fun c entry => c.set entry.1 entry.2) {}

/-- The settings that a TOML text gives. -/
def ofToml (text : String) : Except SettingsError RenderSettings :=
  match Toml.entries? text with
  | some entries => ofEntries entries
  | none => .error .malformed

end RenderSettings

end CanonicalSdl

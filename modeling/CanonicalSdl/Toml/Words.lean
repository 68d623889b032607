import CanonicalSdl.Decimal.Layout
import CanonicalSdl.Text.Printable
import CanonicalSdl.Toml.Basic

/-!
# Naming TOML values

How a message names a value that is not what was expected: scalar values by their kind and text,
arrays and tables by what they are made of. A date or time counts as a table.
-/

namespace CanonicalSdl.Toml.Value

/-- Numbers are named without an exponent and with a fraction. -/
def numberLayout : NumberLayout where
  scientific _ := false
  fractionAlways := true

/-- The words for a value. -/
def words : Value → String
  | string s => "string " ++ Text.displayed s
  | integer i => "integer \x60" ++ String.ofList (NumberLayout.integer i.toInt) ++ "\x60"
  | float x => "floating point \x60" ++ String.ofList (numberLayout.text x) ++ "\x60"
  | boolean b => "boolean \x60" ++ (if b then "true" else "false") ++ "\x60"
  | datetime _ => "map"
  | array _ => "sequence"
  | table _ => "map"

end CanonicalSdl.Toml.Value

import CanonicalSdl.Decimal.Binary64

/-!
# TOML values

The values that a TOML text can hold. A table has its entries in the order of the text.
-/

namespace CanonicalSdl.Toml

/-- A value. Dates and times are held by their text. -/
inductive Value where
  | string (s : String)
  | integer (i : Int64)
  | float (x : Binary64)
  | boolean (b : Bool)
  | datetime (text : String)
  | array (elements : List Value)
  | table (entries : List (String × Value))
  deriving Inhabited

end CanonicalSdl.Toml

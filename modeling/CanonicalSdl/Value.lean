import CanonicalSdl.Decimal.Layout
import CanonicalSdl.Text.Quoted

/-!
# Input values

The values found in directive arguments and default values, and the literal text of each. A string
is written in its quoted form, so that distinct strings have distinct texts and none has the text
of a name.
-/

namespace CanonicalSdl

/-- An input value. -/
inductive Value where
  | null
  | int (i : Int64)
  | float (x : Binary64)
  | string (s : String)
  | boolean (b : Bool)
  | enum (name : String)
  | variableName (name : String)
  | list (values : List Value)
  | object (fields : List (String × Value))
  deriving Inhabited

namespace Value

/-- The elements of a list value. -/
def elements? : Value → Option (List Value)
  | list values => some values
  | _ => none

/-! ### Equality -/

mutual

/-- Whether two values have the same shape and the same contents, given how floating-point numbers
are compared. -/
def equalBy (same : Binary64 → Binary64 → Bool) : Value → Value → Bool
  | null, null => true
  | int i, int j => i = j
  | float x, float y => same x y
  | string s, string t => s = t
  | boolean b, boolean c => b = c
  | enum m, enum n => m = n
  | variableName m, variableName n => m = n
  | list vs, list ws => equalElementsBy same vs ws
  | object fs, object gs => equalFieldsBy same fs gs
  | _, _ => false

/-- Whether two lists of values are equal element by element. -/
def equalElementsBy (same : Binary64 → Binary64 → Bool) : List Value → List Value → Bool
  | [], [] => true
  | v :: vs, w :: ws => v.equalBy same w && equalElementsBy same vs ws
  | _, _ => false

/-- Whether two lists of named values are equal element by element. -/
def equalFieldsBy (same : Binary64 → Binary64 → Bool) :
    List (String × Value) → List (String × Value) → Bool
  | [], [] => true
  | (k, v) :: fs, (l, w) :: gs => k = l && v.equalBy same w && equalFieldsBy same fs gs
  | _, _ => false

end

mutual

/-- Values whose floating-point numbers are compared by their bits are equal if they are the
same. -/
theorem equalBy_bits_iff (v w : Value) : v.equalBy (· = ·) w = true ↔ v = w := by
  cases v <;> cases w <;> simp [equalBy]
  case list vs ws => exact equalElementsBy_bits_iff vs ws
  case object fs gs => exact equalFieldsBy_bits_iff fs gs

/-- Element by element, equal lists of values are the same. -/
theorem equalElementsBy_bits_iff (vs ws : List Value) :
    equalElementsBy (· = ·) vs ws = true ↔ vs = ws := by
  match vs, ws with
  | [], [] => simp [equalElementsBy]
  | [], _ :: _ => simp [equalElementsBy]
  | _ :: _, [] => simp [equalElementsBy]
  | v :: vs, w :: ws =>
    simp only [equalElementsBy, Bool.and_eq_true, List.cons.injEq]
    rw [equalBy_bits_iff v w, equalElementsBy_bits_iff vs ws]

/-- Element by element, equal lists of named values are the same. -/
theorem equalFieldsBy_bits_iff (fs gs : List (String × Value)) :
    equalFieldsBy (· = ·) fs gs = true ↔ fs = gs := by
  match fs, gs with
  | [], [] => simp [equalFieldsBy]
  | [], _ :: _ => simp [equalFieldsBy]
  | _ :: _, [] => simp [equalFieldsBy]
  | (k, v) :: fs, (l, w) :: gs =>
    simp only [equalFieldsBy, Bool.and_eq_true, List.cons.injEq, Prod.mk.injEq, decide_eq_true_eq]
    rw [equalBy_bits_iff v w, equalFieldsBy_bits_iff fs gs]

end

instance : DecidableEq Value :=
  fun v w => decidable_of_iff _ (equalBy_bits_iff v w)

/-- Values compare with their floating-point numbers compared as numbers. -/
instance : BEq Value where
  beq v w := v.equalBy (· == ·) w

/-! ### Text -/

/-- The choices in which the literals of two formats can differ. -/
structure LiteralStyle where
  /-- The text of a string. -/
  quote : String → String
  /-- The layout of floating-point numbers. -/
  numbers : NumberLayout

mutual

/-- The literal text of a value in a given style. -/
def textIn (style : LiteralStyle) : Value → String
  | null => "null"
  | int i => String.ofList (NumberLayout.integer i.toInt)
  | float x => String.ofList (style.numbers.text x)
  | string s => style.quote s
  | boolean b => if b then "true" else "false"
  | enum name => name
  | variableName name => "$" ++ name
  | list values => "[" ++ ", ".intercalate (elementTexts style values) ++ "]"
  | object fields => "\x7b" ++ ", ".intercalate (fieldTexts style fields) ++ "\x7d"

/-- The texts of the elements of a list value. -/
def elementTexts (style : LiteralStyle) : List Value → List String
  | [] => []
  | value :: values => value.textIn style :: elementTexts style values

/-- The texts of named values: the name, a colon and the value. -/
def fieldTexts (style : LiteralStyle) : List (String × Value) → List String
  | [] => []
  | (name, value) :: fields => (name ++ ": " ++ value.textIn style) :: fieldTexts style fields

end

/-- The element texts are the texts of the elements. -/
theorem elementTexts_eq_map (style : LiteralStyle) (values : List Value) :
    elementTexts style values = values.map (textIn style) := by
  induction values with
  | nil => rfl
  | cons value values ih => rw [elementTexts, ih, List.map_cons]

/-- The field texts are those of the fields, one by one. -/
theorem fieldTexts_eq_map (style : LiteralStyle) (fields : List (String × Value)) :
    fieldTexts style fields = fields.map fun field => field.1 ++ ": " ++ field.2.textIn style := by
  induction fields with
  | nil => rfl
  | cons field fields ih => rw [fieldTexts, ih, List.map_cons]

/-- The style of the schema language. Strings are quoted on one line. Floating-point literals
always show a fraction or an exponent, so that none reads as an integer; the exponent is shown
below `10 ^ -4` and from `10 ^ 16` on. -/
def LiteralStyle.standard : LiteralStyle where
  quote := Text.quoted
  numbers := { scientific := fun e => e < -4 || 16 ≤ e, fractionAlways := true }

/-- The literal text of a value. -/
def text (value : Value) : String :=
  value.textIn .standard

example : (list [string "A", enum "B", int (-3), boolean true]).text = "[\"A\", B, -3, true]" := by
  decide
example : (object [("limit", float ⟨0x3FF0000000000000⟩)]).text = "\x7blimit: 1.0\x7d" := by
  decide +kernel

end Value

end CanonicalSdl

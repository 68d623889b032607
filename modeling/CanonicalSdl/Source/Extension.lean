import CanonicalSdl.Source.Literal

/-!
# The canonical source of extensions
-/

namespace CanonicalSdl.Source

/-- Items of a block, which begin and end on lines of their own, one step further in. -/
def braced (indent : Nat) (items : List String) : String :=
  "\x7b\n" ++ String.join items ++ spaces indent ++ "\x7d\n"

/-- A block after a space, or the end of the line if there is nothing in it. -/
def bracedAfter (indent : Nat) (items : List String) : String :=
  if items.isEmpty then "\n" else " " ++ braced indent items

/-- A description on the line of what it describes. -/
def inlineDescription (indent : Nat) : Option String → String
  | none => ""
  | some description => stringText indent description ++ " "

/-- A description on lines before what it describes. -/
def descriptionLines (indent : Nat) : Option String → String
  | none => ""
  | some description => spaces indent ++ stringText indent description ++ "\n"

/-- The definition of an argument. -/
def inputValueText (indent : Nat) (v : InputValue) : String :=
  inlineDescription indent v.description ++ v.text (literals indent)

/-- The definitions of arguments in parentheses. -/
def argumentDefinitionsText (indent : Nat) (arguments : List InputValue) : String :=
  if arguments.isEmpty then ""
  else "(" ++ ", ".intercalate (arguments.map (inputValueText indent)) ++ ")"

/-- A field of an object or interface type. -/
def fieldText (indent : Nat) (f : Field) : String :=
  descriptionLines indent f.description ++ spaces indent ++ f.name ++
    argumentDefinitionsText indent f.arguments ++ ": " ++ f.type.text ++
    directivesText (literals indent) f.directives ++ "\n"

/-- A field of an input object type. -/
def inputFieldText (indent : Nat) (v : InputValue) : String :=
  spaces indent ++ inputValueText indent v ++ "\n"

/-- A value of an enum type. -/
def enumValueText (indent : Nat) (v : EnumValue) : String :=
  spaces indent ++ inlineDescription indent v.description ++ v.name ++
    directivesText (literals indent) v.directives ++ "\n"

/-- An extension of a type, given as a type that holds what is added. -/
def extension (addition : TypeDefinition) : String :=
  let directives := directivesText (literals 0) addition.directives
  match addition.body with
  | .scalar => "extend scalar " ++ addition.name ++ directives ++ "\n"
  | .object interfaces fields =>
    "extend type " ++ addition.name ++ namesText " implements " " & " interfaces ++ directives ++
      bracedAfter 0 (fields.map (fieldText step))
  | .interface interfaces fields =>
    "extend interface " ++ addition.name ++ namesText " implements " " & " interfaces ++
      directives ++ bracedAfter 0 (fields.map (fieldText step))
  | .union members =>
    "extend union " ++ addition.name ++ directives ++ namesText " = " " | " members ++ "\n"
  | .enum values =>
    "extend enum " ++ addition.name ++ directives ++
      bracedAfter 0 (values.map (enumValueText step))
  | .input fields =>
    "extend input " ++ addition.name ++ directives ++
      bracedAfter 0 (fields.map (inputFieldText step))

end CanonicalSdl.Source

import CanonicalSdl.Document.Basic

/-!
# Texts of definitions' parts

The texts that take a part of one line wherever they occur: arguments, applications of directives,
and definitions of arguments without their descriptions.
-/

namespace CanonicalSdl

open Value (LiteralStyle)

/-- Named values in parentheses; nothing if there are none. -/
def argumentsText (style : LiteralStyle) (arguments : List (String × Value)) : String :=
  if arguments.isEmpty then ""
  else "(" ++ ", ".intercalate (Value.fieldTexts style arguments) ++ ")"

/-- The application of a directive. -/
def Directive.text (style : LiteralStyle) (d : Directive) : String :=
  "@" ++ d.name ++ argumentsText style d.arguments

/-- Applications of directives, a space before each. -/
def directivesText (style : LiteralStyle) (directives : List Directive) : String :=
  String.join (directives.map fun d => " " ++ d.text style)

/-- A default value after its equals sign; nothing if there is none. -/
def defaultText (style : LiteralStyle) : Option Value → String
  | none => ""
  | some value => " = " ++ value.textIn style

/-- Names with a separator between them after what introduces them; nothing if there are none. -/
def namesText (introduction separator : String) (names : List String) : String :=
  if names.isEmpty then "" else introduction ++ separator.intercalate names

/-- The definition of an argument or of a field of an input object, without its description. -/
def InputValue.text (style : LiteralStyle) (v : InputValue) : String :=
  v.name ++ ": " ++ v.type.text ++ defaultText style v.defaultValue ++
    directivesText style v.directives

end CanonicalSdl

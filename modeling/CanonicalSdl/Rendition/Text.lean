import CanonicalSdl.Document.Text
import CanonicalSdl.Rendition.Basic
import CanonicalSdl.Rendition.Settings
import CanonicalSdl.Text.Blank
import CanonicalSdl.Text.Lines
import CanonicalSdl.Text.TripleQuotes

/-!
# Rendering

A schema is rendered as blocks with a blank line between them: directive definitions,
then the schema definition, if it has a root or a directive, then types, without the built-in
scalar types. Every block ends with a line break.

Descriptions are block strings on the lines before what they describe. Arguments stand on one
line, or on one line each if one of them has a description that is rendered.
-/

namespace CanonicalSdl.Rendering

/-! ### Descriptions -/

/-- A line of a description at a given indentation: without blanks at its ends, and with its runs
of three quotes escaped. -/
def descriptionLine (indentation : String) (line : List Char) : String :=
  if (Text.trim line).isEmpty then "\n"
  else indentation ++ String.ofList (Text.escapeTriples (Text.trim line)) ++ "\n"

/-- A description as a block string at a given indentation. -/
def descriptionBlock (indentation : String) (description : String) : String :=
  indentation ++ "\"\"\"\n" ++
    String.join
      ((Text.lines (Text.trim description.toList)).map (descriptionLine indentation)) ++
    indentation ++ "\"\"\"\n"

/-- A description, if there is one and descriptions are rendered. -/
def described (c : RenderSettings) (indentation : String) : Option String → String
  | some description => if c.descriptions then descriptionBlock indentation description else ""
  | none => ""

/-! ### Parts of definitions -/

/-- Directives, a space before each. -/
def directives (ds : List Directive) : String :=
  directivesText .standard ds

/-- The definition of an argument or input field, on a line of its own after its description. -/
def inputLine (c : RenderSettings) (indentation : String) (v : InputValue) : String :=
  described c indentation v.description ++ indentation ++ v.text .standard ++ "\n"

/-- Whether arguments are rendered on one line each. -/
def onLines (c : RenderSettings) (arguments : List InputValue) : Bool :=
  c.descriptions && arguments.any (·.description.isSome)

/-- The definitions of the arguments of what stands at a given indentation. -/
def arguments (c : RenderSettings) (indentation : String) (arguments : List InputValue) : String :=
  if arguments.isEmpty then ""
  else if onLines c arguments then
    "(\n" ++ String.join (arguments.map (inputLine c (indentation ++ c.spaces))) ++
      indentation ++ ")"
  else "(" ++ ", ".intercalate (arguments.map (InputValue.text .standard)) ++ ")"

/-- A field of an object or interface type. -/
def field (c : RenderSettings) (f : Field) : String :=
  described c c.spaces f.description ++ c.spaces ++ f.name ++
    arguments c c.spaces f.arguments ++ ": " ++ f.type.text ++ directives f.directives ++ "\n"

/-- A value of an enum type. -/
def enumValue (c : RenderSettings) (v : EnumValue) : String :=
  described c c.spaces v.description ++ c.spaces ++ v.name ++ directives v.directives ++
    "\n"

/-- Items in braces, which end the block they stand in; a line break if there are none. -/
def braced (items : List String) : String :=
  if items.isEmpty then "\n" else " \x7b\n" ++ String.join items ++ "\x7d\n"

/-! ### Blocks -/

/-- The definition of a directive. -/
def directiveBlock (c : RenderSettings) (d : DirectiveDefinition) : String :=
  described c "" d.description ++ "directive @" ++ d.name ++ arguments c "" d.arguments ++
    (if d.repeatable then " repeatable" else "") ++ " on " ++ " | ".intercalate d.locations ++ "\n"

/-- The root type of an operation. -/
def root (c : RenderSettings) (operation : RootOperation) (name : String) : String :=
  c.spaces ++ operation.word ++ ": " ++ name ++ "\n"

/-- The schema definition. -/
def schemaBlock (c : RenderSettings) (r : Rendition) : String :=
  "schema" ++ directives r.directives ++
    braced ((r.query.map (root c .query)).toList ++ (r.mutation.map (root c .mutation)).toList)

/-- What follows the description of a type. -/
def typeBody (c : RenderSettings) (t : TypeDefinition) : String :=
  match t.body with
  | .scalar => "scalar " ++ t.name ++ directives t.directives ++ "\n"
  | .object interfaces fields =>
    "type " ++ t.name ++ namesText " implements " " & " interfaces ++
      directives t.directives ++ braced (fields.map (field c))
  | .interface interfaces fields =>
    "interface " ++ t.name ++ namesText " implements " " & " interfaces ++
      directives t.directives ++ braced (fields.map (field c))
  | .input fields =>
    "input " ++ t.name ++ directives t.directives ++
      braced (fields.map (inputLine c c.spaces))
  | .enum values =>
    "enum " ++ t.name ++ directives t.directives ++ braced (values.map (enumValue c))
  | .union members =>
    "union " ++ t.name ++ directives t.directives ++ namesText " = " " | " members ++ "\n"

/-- The definition of a type. -/
def typeBlock (c : RenderSettings) (t : TypeDefinition) : String :=
  described c "" t.description ++ typeBody c t

/-- Whether a type is a scalar type that needs no definition. -/
def isBuiltinScalar (t : TypeDefinition) : Bool :=
  match t.body with
  | .scalar => builtinScalars.contains t.name
  | _ => false

/-- Whether the schema definition has anything to show. -/
def showsSchema (r : Rendition) : Bool :=
  r.query.isSome || r.mutation.isSome || !r.directives.isEmpty

/-- The blocks of a schema, in order. -/
def blocks (c : RenderSettings) (r : Rendition) : List String :=
  r.directiveDefinitions.map (directiveBlock c) ++
    (if showsSchema r then [schemaBlock c r] else []) ++
    (r.types.filter (!isBuiltinScalar ·)).map (typeBlock c)

end CanonicalSdl.Rendering

namespace CanonicalSdl

/-- The text of a schema. -/
def Rendition.text (r : Rendition) (c : RenderSettings) : String :=
  "\n".intercalate (Rendering.blocks c r)

end CanonicalSdl

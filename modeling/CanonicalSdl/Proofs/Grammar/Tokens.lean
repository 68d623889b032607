import CanonicalSdl.Document.Basic
import CanonicalSdl.Token.Basic
import Mathlib.Data.List.Basic

/-!
# Definitions as tokens

The tokens that the text of a definition has. They leave out everything of the text that carries
no meaning: its layout, and which of the two forms its strings have.
-/

namespace CanonicalSdl

namespace Token

/-- The tokens of items between two punctuators; none if there are no items. -/
def enclosed {α : Type} (opening closing : Char) (tokensOf : α → List Token) (as : List α) :
    List Token :=
  if as.isEmpty then [] else punctuator opening :: (as.flatMap tokensOf ++ [punctuator closing])

/-- The tokens of names with a separator between them after what introduces them; none if there are
no names. -/
def listed (introduction separator : Token) : List String → List Token
  | [] => []
  | first :: others => introduction :: name first :: others.flatMap fun s => [separator, name s]

/-- The tokens of a description. -/
def ofDescription (d : Option String) : List Token :=
  (d.map string).toList

end Token

open Token (punctuator enclosed listed ofDescription)

/-! ### Values and types -/

mutual

/-- The tokens of a value. -/
def Value.tokens : Value → List Token
  | .null => [.name "null"]
  | .int i => [.int i]
  | .float x => [.float x]
  | .string s => [.string s]
  | .boolean b => [.name (if b then "true" else "false")]
  | .enum n => [.name n]
  | .variableName n => [punctuator '$', .name n]
  | .list values => punctuator '[' :: (Value.elementTokens values ++ [punctuator ']'])
  | .object fields => punctuator '\x7b' :: (Value.fieldTokens fields ++ [punctuator '\x7d'])

/-- The tokens of the elements of a list value. -/
def Value.elementTokens : List Value → List Token
  | [] => []
  | value :: values => value.tokens ++ Value.elementTokens values

/-- The tokens of named values. -/
def Value.fieldTokens : List (String × Value) → List Token
  | [] => []
  | (name, value) :: fields =>
    .name name :: punctuator ':' :: (value.tokens ++ Value.fieldTokens fields)

end

/-- The tokens of a named value. -/
def Value.namedTokens (field : String × Value) : List Token :=
  .name field.1 :: punctuator ':' :: field.2.tokens

lemma Value.elementTokens_eq_flatMap (values : List Value) :
    Value.elementTokens values = values.flatMap Value.tokens := by
  induction values with
  | nil => rfl
  | cons value values ih => rw [Value.elementTokens, ih, List.flatMap_cons]

lemma Value.fieldTokens_eq_flatMap (fields : List (String × Value)) :
    Value.fieldTokens fields = fields.flatMap Value.namedTokens := by
  induction fields with
  | nil => rfl
  | cons field fields ih => rw [Value.fieldTokens, ih, List.flatMap_cons]; rfl

/-- The tokens of a type reference. -/
def TypeRef.tokens : TypeRef → List Token
  | .named n => [.name n]
  | .list inner => punctuator '[' :: (inner.tokens ++ [punctuator ']'])
  | .nonNull inner => inner.tokens ++ [punctuator '!']

/-! ### Parts of definitions -/

/-- The tokens of the application of a directive. -/
def Directive.tokens (d : Directive) : List Token :=
  punctuator '@' :: .name d.name :: enclosed '(' ')' Value.namedTokens d.arguments

/-- The tokens of a default value. -/
def Value.defaultTokens : Option Value → List Token
  | none => []
  | some value => punctuator '=' :: value.tokens

/-- The tokens of the definition of an argument or of a field of an input object. -/
def InputValue.tokens (v : InputValue) : List Token :=
  ofDescription v.description ++ .name v.name :: punctuator ':' ::
    (v.type.tokens ++ (Value.defaultTokens v.defaultValue ++ v.directives.flatMap Directive.tokens))

/-- The tokens of a field of an object or interface type. -/
def Field.tokens (f : Field) : List Token :=
  ofDescription f.description ++ .name f.name ::
    (enclosed '(' ')' InputValue.tokens f.arguments ++ punctuator ':' ::
      (f.type.tokens ++ f.directives.flatMap Directive.tokens))

/-- The tokens of a value of an enum type. -/
def EnumValue.tokens (v : EnumValue) : List Token :=
  ofDescription v.description ++ .name v.name :: v.directives.flatMap Directive.tokens

/-! ### Definitions -/

/-- The tokens of a directive definition. -/
def DirectiveDefinition.tokens (d : DirectiveDefinition) : List Token :=
  ofDescription d.description ++ .name "directive" :: punctuator '@' :: .name d.name ::
    (enclosed '(' ')' InputValue.tokens d.arguments ++
      ((if d.repeatable then [.name "repeatable"] else []) ++
        listed (.name "on") (punctuator '|') d.locations))

/-- The query and mutation roots of a schema definition by their operations. -/
def SchemaDefinition.roots (s : SchemaDefinition) : List (String × String) :=
  (s.query.map ("query", ·)).toList ++ (s.mutation.map ("mutation", ·)).toList

/-- The tokens of the type of a root operation. -/
def SchemaDefinition.rootTokens (root : String × String) : List Token :=
  [.name root.1, punctuator ':', .name root.2]

/-- The tokens of a schema definition with its query and mutation roots. -/
def SchemaDefinition.tokens (s : SchemaDefinition) : List Token :=
  .name "schema" :: (s.directives.flatMap Directive.tokens ++ punctuator '\x7b' ::
    (s.roots.flatMap rootTokens ++ [punctuator '\x7d']))

/-- The tokens of a type definition after its description. -/
def TypeDefinition.tokensFromKeyword (t : TypeDefinition) : List Token :=
  let directives := t.directives.flatMap Directive.tokens
  match t.body with
  | .scalar => .name "scalar" :: .name t.name :: directives
  | .object interfaces fields =>
    .name "type" :: .name t.name :: (listed (.name "implements") (punctuator '&') interfaces ++
      (directives ++ enclosed '\x7b' '\x7d' Field.tokens fields))
  | .interface interfaces fields =>
    .name "interface" :: .name t.name :: (listed (.name "implements") (punctuator '&') interfaces ++
      (directives ++ enclosed '\x7b' '\x7d' Field.tokens fields))
  | .input fields =>
    .name "input" :: .name t.name ::
      (directives ++ enclosed '\x7b' '\x7d' InputValue.tokens fields)
  | .enum values =>
    .name "enum" :: .name t.name ::
      (directives ++ enclosed '\x7b' '\x7d' EnumValue.tokens values)
  | .union members =>
    .name "union" :: .name t.name ::
      (directives ++ listed (punctuator '=') (punctuator '|') members)

/-- The tokens of a type definition. -/
def TypeDefinition.tokens (t : TypeDefinition) : List Token :=
  ofDescription t.description ++ t.tokensFromKeyword

end CanonicalSdl

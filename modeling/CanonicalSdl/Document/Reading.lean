import CanonicalSdl.Grammar.Executable
import CanonicalSdl.Grammar.TypeSystem
import CanonicalSdl.Source.Executable

/-!
# Reading documents

The document that a text denotes. Definitions of the type system are taken in full, where an
argument that a directive is given more than once is held once; extensions, operations and
fragments are taken as their canonical source.
-/

namespace CanonicalSdl

/-! ### Arguments given more than once -/

/-- The directive with each argument once. -/
def Directive.merged (d : Directive) : Directive :=
  ofPairs d.name d.arguments

/-- The definition with each argument of a directive once. -/
def InputValue.merged (v : InputValue) : InputValue :=
  { v with directives := v.directives.map Directive.merged }

/-- The definition with each argument of a directive once. -/
def Field.merged (f : Field) : Field :=
  { f with
    arguments := f.arguments.map InputValue.merged
    directives := f.directives.map Directive.merged }

/-- The definition with each argument of a directive once. -/
def EnumValue.merged (v : EnumValue) : EnumValue :=
  { v with directives := v.directives.map Directive.merged }

/-- The definition with each argument of a directive once. -/
def TypeBody.merged : TypeBody → TypeBody
  | .scalar => .scalar
  | .input fields => .input (fields.map InputValue.merged)
  | .object interfaces fields => .object interfaces (fields.map Field.merged)
  | .interface interfaces fields => .interface interfaces (fields.map Field.merged)
  | .enum values => .enum (values.map EnumValue.merged)
  | .union members => .union members

/-- The definition with each argument of a directive once. -/
def TypeDefinition.merged (t : TypeDefinition) : TypeDefinition :=
  { t with directives := t.directives.map Directive.merged, body := t.body.merged }

/-- The definition with each argument of a directive once. -/
def SchemaDefinition.merged (s : SchemaDefinition) : SchemaDefinition :=
  { s with directives := s.directives.map Directive.merged }

/-- The definition with each argument of a directive once. -/
def DirectiveDefinition.merged (d : DirectiveDefinition) : DirectiveDefinition :=
  { d with arguments := d.arguments.map InputValue.merged }

/-! ### From texts to documents -/

/-- A definition kept as canonical source, which has no blanks at its end. -/
def Verbatim.ofSource (name : Option String) (source : String) : Verbatim :=
  ⟨name, String.ofList (Text.trimEnd source.toList)⟩

namespace Definition

/-- The definition that an item of a type system denotes. -/
def ofTypeSystemItem : Production.TypeSystemItem → Definition
  | .schema definition => .schema definition.merged
  | .directive definition => .directive definition.merged
  | .type definition => .type definition.merged
  | .extension addition => .extension (.ofSource (some addition.name) (Source.extension addition))

/-- The definition that an operation or a fragment denotes. -/
def ofExecutable (e : Executable) : Definition :=
  .executable (.ofSource e.name? (Source.executable e))

end Definition

namespace Document

/-- The document that the text of a type system denotes, if the text is well formed. A blank text
denotes the empty document. -/
def ofSchemaText? (text : String) : Option Document :=
  if text.toList.all Text.isBlank then some {}
  else do
    let tokens ← Token.ofText? text
    let items ← Reader.complete Production.typeSystem tokens
    return ⟨items.map Definition.ofTypeSystemItem⟩

/-- The document that a text of operations and fragments denotes, if the text is well formed. -/
def ofExecutableText? (text : String) : Option Document := do
  let tokens ← Token.ofText? text
  let items ← Reader.complete Production.executables tokens
  return ⟨items.map Definition.ofExecutable⟩

end Document

end CanonicalSdl

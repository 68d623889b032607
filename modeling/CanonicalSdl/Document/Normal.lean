import CanonicalSdl.Document.Order

/-!
# Normal forms

The normal form of a document has the fields of object and input object types ordered by name,
and its definitions in canonical order. Nothing is added, left out or changed otherwise. The
fields of interface types keep their order, as do the values of enum types, the members of union
types and all arguments and directives.
-/

namespace CanonicalSdl

/-- A type definition with its fields ordered by name, if it is an object or input object type. -/
def TypeDefinition.normal (t : TypeDefinition) : TypeDefinition :=
  match t.body with
  | .object interfaces fields =>
    { t with body := .object interfaces (sortByBytes (fun f => Text.utf8 f.name) fields) }
  | .input fields => { t with body := .input (sortByBytes (fun f => Text.utf8 f.name) fields) }
  | _ => t

/-- A definition with its fields ordered by name, if it has any to be ordered. -/
def Definition.normal : Definition → Definition
  | .type definition => .type definition.normal
  | other => other

/-- The normal form of a document. -/
def Document.normal (d : Document) : Document :=
  ⟨sortByBytes (·.orderKey.bytes) (d.definitions.map Definition.normal)⟩

end CanonicalSdl

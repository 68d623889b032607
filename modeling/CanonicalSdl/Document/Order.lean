import CanonicalSdl.Document.Basic

/-!
# The canonical order

Definitions are ordered by a key, which is a letter for their kind followed by their name:

* operations, fragments and extensions have the empty key;
* directive definitions have the key `a`, whatever their name, and schema definitions `b`;
* scalar types have the letter `c`, input object types `d` and object types `e`;
* interface, enum and union types have no letter, so that they are ordered by name alone, among
  the keys of the other kinds.

Keys compare by the bytes of their UTF-8 encoding, and definitions with equal keys stay in the
order they had.
-/

namespace CanonicalSdl

namespace Text

/-- The bytes of a text in UTF-8. -/
def utf8 (s : String) : List UInt8 :=
  s.toList.flatMap String.utf8EncodeChar

end Text

/-! ### Sorting by bytes -/

/-- A list sorted by the bytes that a function gives for each item. The sort is stable. -/
def sortByBytes (bytes : α → List UInt8) (items : List α) : List α :=
  items.mergeSort fun a b => (compare (bytes a) (bytes b)).isLE

/-- Sorting keeps each item as often as it occurs. -/
theorem sortByBytes_perm (bytes : α → List UInt8) (items : List α) :
    (sortByBytes bytes items).Perm items :=
  List.mergeSort_perm items _

/-- A sorted list is in order. -/
theorem pairwise_sortByBytes (bytes : α → List UInt8) (items : List α) :
    (sortByBytes bytes items).Pairwise fun a b => (compare (bytes a) (bytes b)).isLE :=
  List.pairwise_mergeSort (fun _ _ _ => Std.TransCmp.isLE_trans)
    (fun a b => by
      have swap : compare (bytes b) (bytes a) = (compare (bytes a) (bytes b)).swap :=
        Std.OrientedCmp.eq_swap
      rw [swap]
      cases compare (bytes a) (bytes b) <;> rfl) items

/-! ### Keys -/

/-- A sort key: a letter for the kind of a definition, or none, and a name. -/
structure OrderKey where
  kind : String
  name : String

namespace OrderKey

/-- The bytes of a key: those of the letter and then those of the name. -/
def bytes (k : OrderKey) : List UInt8 :=
  Text.utf8 k.kind ++ Text.utf8 k.name

/-- Keys compare as if letter and name were one text. -/
instance : Ord OrderKey where
  compare k l := compare k.bytes l.bytes

end OrderKey

/-- The letter of the keys of a kind of types. -/
def TypeBody.orderLetter : TypeBody → String
  | .scalar => "c"
  | .input _ => "d"
  | .object _ _ => "e"
  | .interface _ _ => ""
  | .enum _ => ""
  | .union _ => ""

/-- The sort key of a type definition. -/
def TypeDefinition.orderKey (t : TypeDefinition) : OrderKey :=
  ⟨t.body.orderLetter, t.name⟩

/-- The sort key of a definition. -/
def Definition.orderKey : Definition → OrderKey
  | .executable _ => ⟨"", ""⟩
  | .extension _ => ⟨"", ""⟩
  | .directive _ => ⟨"a", ""⟩
  | .schema _ => ⟨"b", ""⟩
  | .type definition => definition.orderKey

/-- The canonical order of type definitions. -/
def TypeDefinition.compare (t u : TypeDefinition) : Ordering :=
  Ord.compare t.orderKey u.orderKey

/-- Type definitions in canonical order. -/
def sortTypes (types : List TypeDefinition) : List TypeDefinition :=
  sortByBytes (·.orderKey.bytes) types

end CanonicalSdl

import CanonicalSdl.Proofs.Document.Normal
import CanonicalSdl.Proofs.Document.StableSort
import Mathlib.Data.List.Forall2

/-!
# What normal forms are

The normal form of a document has the definitions of the document with sorted fields, in the order
of their keys and, among definitions with one key, in that of their declaration. This leaves no
choice, so that documents have the same normal form exactly if they have the same definitions with
each key, in the same order.
-/

namespace CanonicalSdl

/-! ### Sorted fields -/

/-- The second body is the first one with the fields of an object or input object type sorted by
name. -/
inductive TypeBody.SortsFields : TypeBody → TypeBody → Prop where
  | scalar : SortsFields .scalar .scalar
  | input {fields fields'} (sorted : IsStableSort InputValue.name fields fields') :
      SortsFields (.input fields) (.input fields')
  | object (interfaces) {fields fields'} (sorted : IsStableSort Field.name fields fields') :
      SortsFields (.object interfaces fields) (.object interfaces fields')
  | interface (interfaces fields) :
      SortsFields (.interface interfaces fields) (.interface interfaces fields)
  | enum (values) : SortsFields (.enum values) (.enum values)
  | union (members) : SortsFields (.union members) (.union members)

/-- The second type is the first one with the fields of an object or input object type sorted by
name. -/
structure TypeDefinition.SortsFields (t u : TypeDefinition) : Prop where
  description : u.description = t.description
  name : u.name = t.name
  directives : u.directives = t.directives
  body : t.body.SortsFields u.body

/-- The second definition is the first one with the fields of an object or input object type sorted
by name. -/
inductive Definition.SortsFields : Definition → Definition → Prop where
  | executable (verbatim) : SortsFields (.executable verbatim) (.executable verbatim)
  | extension (verbatim) : SortsFields (.extension verbatim) (.extension verbatim)
  | directive (definition) : SortsFields (.directive definition) (.directive definition)
  | schema (definition) : SortsFields (.schema definition) (.schema definition)
  | type {t u} (sorts : t.SortsFields u) : SortsFields (.type t) (.type u)

lemma TypeDefinition.sortsFields_iff {t u : TypeDefinition} : t.SortsFields u ↔ u = t.normal := by
  obtain ⟨description, name, directives, body⟩ := t
  obtain ⟨description', name', directives', body'⟩ := u
  constructor
  · rintro ⟨rfl, rfl, rfl, hbody⟩
    cases hbody with
    | input sorted => simp only [normal, isStableSort_iff.1 sorted]
    | object interfaces sorted => simp only [normal, isStableSort_iff.1 sorted]
    | _ => rfl
  · intro h
    rw [h]
    refine ⟨by simp [normal]; split <;> rfl, normal_name _, normal_directives _, ?_⟩
    cases body with
    | scalar => exact .scalar
    | input fields => exact .input (isStableSort_sortByBytes _ _)
    | object interfaces fields => exact .object interfaces (isStableSort_sortByBytes _ _)
    | interface interfaces fields => exact .interface interfaces fields
    | enum values => exact .enum values
    | union members => exact .union members

lemma Definition.sortsFields_iff {a b : Definition} : a.SortsFields b ↔ b = a.normal := by
  constructor
  · rintro (_ | _ | _ | _ | sorts)
    case type => exact congrArg Definition.type (TypeDefinition.sortsFields_iff.1 sorts)
    all_goals rfl
  · rintro rfl
    cases a with
    | executable verbatim => exact .executable verbatim
    | extension verbatim => exact .extension verbatim
    | directive definition => exact .directive definition
    | schema definition => exact .schema definition
    | type definition => exact .type (TypeDefinition.sortsFields_iff.2 rfl)

@[simp] lemma Definition.normal_normal (definition : Definition) :
    definition.normal.normal = definition.normal := by
  cases definition with
  | type t => exact congrArg Definition.type t.normal_normal
  | _ => rfl

/-- There is one way to sort the fields of given definitions. -/
lemma forall₂_sortsFields_iff {as bs : List Definition} :
    List.Forall₂ Definition.SortsFields as bs ↔ bs = as.map Definition.normal := by
  have hsorts : Definition.SortsFields = fun a b => a.normal = b := by
    funext a b
    rw [Definition.sortsFields_iff, eq_comm (a := b)]
  rw [hsorts, ← List.forall₂_map_left_iff, List.forall₂_eq_eq_eq, eq_comm]

/-! ### Keys -/

/-- The text by which a type is ordered: a letter, if its kind has one, and its name. -/
def TypeDefinition.keyText (t : TypeDefinition) : String :=
  match t.body with
  | .scalar => "c" ++ t.name
  | .input _ => "d" ++ t.name
  | .object _ _ => "e" ++ t.name
  | .interface _ _ => t.name
  | .enum _ => t.name
  | .union _ => t.name

/-- The text by which a definition is ordered. -/
def Definition.keyText : Definition → String
  | .executable _ => ""
  | .extension _ => ""
  | .directive _ => "a"
  | .schema _ => "b"
  | .type definition => definition.keyText

lemma Text.utf8_append (s t : String) : Text.utf8 (s ++ t) = Text.utf8 s ++ Text.utf8 t := by
  rw [utf8, String.toList_append, List.flatMap_append]
  rfl

/-- The text of a key is its letter, followed by its name. -/
lemma Definition.keyText_eq_append (definition : Definition) :
    definition.keyText = definition.orderKey.kind ++ definition.orderKey.name := by
  cases definition with
  | type t =>
    obtain ⟨description, name, directives, body⟩ := t
    cases body <;> simp [keyText, TypeDefinition.keyText, orderKey, TypeDefinition.orderKey,
      TypeBody.orderLetter]
  | _ => simp [keyText, orderKey]

lemma Definition.bytes_orderKey (definition : Definition) :
    definition.orderKey.bytes = Text.utf8 definition.keyText := by
  rw [keyText_eq_append, Text.utf8_append, OrderKey.bytes]

lemma Definition.keyText_normal (definition : Definition) :
    definition.normal.keyText = definition.keyText := by
  cases definition with
  | type t =>
    obtain ⟨description, name, directives, body⟩ := t
    cases body <;> rfl
  | _ => rfl

/-- The definitions of a document with a given key. -/
def Document.withKey (d : Document) (key : String) : List Definition :=
  d.definitions.filter (·.keyText == key)

/-! ### Normal forms -/

namespace Document

/-- The document has the definitions of another one with sorted fields, in the order of their keys,
and with each key in the order of the other document. -/
structure IsNormalFormOf (e d : Document) : Prop where
  perm : ∃ definitions,
    List.Forall₂ Definition.SortsFields d.definitions definitions ∧
      e.definitions.Perm definitions
  sorted : e.definitions.Pairwise (TextLE Definition.keyText)
  stable : ∀ key, List.Forall₂ Definition.SortsFields (d.withKey key) (e.withKey key)

variable {d d' e : Document}

lemma normal_eq : d.normal = ⟨sortByBytes (fun definition => Text.utf8 definition.keyText)
    (d.definitions.map Definition.normal)⟩ := by
  simp only [normal, Definition.bytes_orderKey]

/-- It makes no difference whether definitions are left out before a document is brought into its
normal form or after. -/
lemma filter_normal (d : Document) {p : Definition → Bool}
    (hp : ∀ definition : Definition, p definition.normal = p definition) :
    d.normal.definitions.filter p = sortByBytes (fun definition => Text.utf8 definition.keyText)
      ((d.definitions.filter p).map Definition.normal) := by
  rw [normal_eq, filter_sortByBytes_utf8, List.filter_map]
  simp only [Function.comp_def, hp]

lemma filter_map_normal (key : String) :
    (d.definitions.map Definition.normal).filter (·.keyText == key) =
      (d.withKey key).map Definition.normal := by
  simp only [List.filter_map, Function.comp_def, Definition.keyText_normal, withKey]

lemma isNormalFormOf_iff_isStableSort : e.IsNormalFormOf d ↔
    IsStableSort Definition.keyText (d.definitions.map Definition.normal) e.definitions := by
  constructor
  · rintro ⟨⟨definitions, hsorts, hperm⟩, hsorted, hstable⟩
    obtain rfl := forall₂_sortsFields_iff.1 hsorts
    refine ⟨hperm, hsorted, fun key => ?_⟩
    rw [filter_map_normal]
    exact forall₂_sortsFields_iff.1 (hstable key)
  · rintro ⟨hperm, hsorted, hstable⟩
    refine ⟨⟨_, forall₂_sortsFields_iff.2 rfl, hperm⟩, hsorted, fun key => ?_⟩
    rw [forall₂_sortsFields_iff, ← filter_map_normal]
    exact hstable key

/-- The normal form is the only document with these properties. -/
lemma isNormalFormOf_iff_eq_normal : e.IsNormalFormOf d ↔ e = d.normal := by
  obtain ⟨definitions⟩ := e
  rw [isNormalFormOf_iff_isStableSort, isStableSort_iff, normal_eq, mk.injEq]

lemma sorted_normal (d : Document) :
    d.normal.definitions.Pairwise (TextLE Definition.keyText) :=
  (isNormalFormOf_iff_eq_normal.2 rfl).sorted

/-- What has its normal form already is left as it is. -/
lemma normal_eq_self (hnormal : ∀ definition ∈ d.definitions, definition.normal = definition)
    (hsorted : d.definitions.Pairwise (TextLE Definition.keyText)) : d.normal = d := by
  symm
  rw [← isNormalFormOf_iff_eq_normal, isNormalFormOf_iff_isStableSort,
    List.map_congr_left hnormal, List.map_id']
  exact ⟨.refl _, hsorted, fun _ => rfl⟩

lemma normal_normal (d : Document) : d.normal.normal = d.normal := by
  refine normal_eq_self (fun definition h => ?_) d.sorted_normal
  rw [d.normal_definitions_perm.mem_iff] at h
  obtain ⟨definition, -, rfl⟩ := List.mem_map.1 h
  exact Definition.normal_normal definition

lemma withKey_normal (d : Document) (key : String) :
    d.normal.withKey key = (d.withKey key).map Definition.normal :=
  forall₂_sortsFields_iff.1 ((isNormalFormOf_iff_eq_normal.2 rfl).stable key)

lemma normal_eq_normal_iff : d.normal = d'.normal ↔
    ∀ key, (d.withKey key).map Definition.normal = (d'.withKey key).map Definition.normal := by
  constructor
  · intro h key
    rw [← withKey_normal, h, withKey_normal]
  · intro h
    apply congrArg Document.mk
    refine eq_of_filter_text_eq d.sorted_normal d'.sorted_normal fun key => ?_
    change d.normal.withKey key = d'.normal.withKey key
    rw [withKey_normal, withKey_normal, h]

/-- The normal form of a document is the only document that has its definitions with sorted fields,
in the order of their keys and with each key in the order they had. Hence it is its own normal form,
and documents have the same normal form exactly if they have, with each key, the same definitions
up to the sorting of fields, in the same order. -/
theorem normal_characterization (d : Document) :
    (∀ e : Document, e.IsNormalFormOf d ↔ e = d.normal) ∧
      d.normal.normal = d.normal ∧
      ∀ d' : Document, d.normal = d'.normal ↔
        ∀ key, ∃ definitions, List.Forall₂ Definition.SortsFields (d.withKey key) definitions ∧
          List.Forall₂ Definition.SortsFields (d'.withKey key) definitions := by
  refine ⟨fun e => isNormalFormOf_iff_eq_normal, d.normal_normal, fun d' => ?_⟩
  simp only [forall₂_sortsFields_iff, exists_eq_left]
  exact normal_eq_normal_iff

end Document

end CanonicalSdl

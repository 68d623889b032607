import CanonicalSdl.Document.Order
import CanonicalSdl.Grammar.TypeSystem
import Mathlib.Data.List.Basic

/-!
# Legible definitions

A definition is legible if it has the shape of what reading a text gives: its names are names, its
objects are ordered, its directives name each argument once, and so on. Floating-point numbers are
left out, as not all of their texts can be read back.

Legibility is relative to the room there is for brackets, as a text may have no more than
`Token.maxNesting` brackets open at once: every bracket takes one off the room for what stands in
it. What has the right shape is legible in some room, and how much it needs shows in its tokens.
-/

namespace CanonicalSdl

open Token (isName)

/-- Items that stand in brackets, unless there are none, satisfy a condition on them and on the
room that the brackets leave. -/
def InBrackets {α : Type} (Fits : Nat → α → Prop) (room : Nat) (as : List α) : Prop :=
  as = [] ∨ ∃ inner, room = inner + 1 ∧ ∀ a ∈ as, Fits inner a

lemma InBrackets.exists_room {α : Type} {Fits : Nat → α → Prop} {as : List α}
    {room limit : Nat} (h : InBrackets Fits room as) (hroom : room ≤ limit) :
    ∃ inner ≤ limit, ∀ a ∈ as, Fits inner a := by
  rcases h with rfl | ⟨inner, rfl, hall⟩
  · exact ⟨room, hroom, by simp⟩
  · exact ⟨inner, by omega, hall⟩

/-- The value has the shape of one that was read, and room for its brackets. -/
inductive Value.Legible (variablesAllowed : Bool) : Nat → Value → Prop where
  | null {room} : Legible variablesAllowed room .null
  | int {room i} : Legible variablesAllowed room (.int i)
  | string {room s} : Legible variablesAllowed room (.string s)
  | boolean {room b} : Legible variablesAllowed room (.boolean b)
  | enum {room n} (name : isName n = true) (word : n ∉ ["true", "false", "null"]) :
      Legible variablesAllowed room (.enum n)
  | variableName {room n} (allowed : variablesAllowed = true) (name : isName n = true) :
      Legible variablesAllowed room (.variableName n)
  | list {room vs} (elements : ∀ v ∈ vs, Legible variablesAllowed room v) :
      Legible variablesAllowed (room + 1) (.list vs)
  | object {room fs} (names : ∀ f ∈ fs, isName f.1 = true)
      (ascending : fs.Pairwise fun f g => compare (Text.utf8 f.1) (Text.utf8 g.1) = .lt)
      (values : ∀ f ∈ fs, Legible variablesAllowed room f.2) :
      Legible variablesAllowed (room + 1) (.object fs)

/-- The type reference has a name for its target, no non-null type directly inside another one,
and room for its brackets. -/
inductive TypeRef.Legible : Nat → TypeRef → Prop where
  | named {room n} (name : isName n = true) : Legible room (.named n)
  | list {room t} (inner : Legible room t) : Legible (room + 1) (.list t)
  | nonNull {room t} (inner : Legible room t) (once : ∀ u, t ≠ .nonNull u) :
      Legible room (.nonNull t)

/-- The directive has a name and names each of its arguments once. -/
structure Directive.Legible (room : Nat) (d : Directive) : Prop where
  name : isName d.name = true
  nodup : (d.arguments.map Prod.fst).Nodup
  arguments :
    InBrackets (fun inner a => isName a.1 = true ∧ a.2.Legible true inner) room d.arguments

/-- The argument or input field has a name, a type, a default value without variables, if it has
one, and directives. -/
structure InputValue.Legible (room : Nat) (v : InputValue) : Prop where
  name : isName v.name = true
  type : v.type.Legible room
  defaultValue : ∀ value ∈ v.defaultValue, value.Legible false room
  directives : ∀ d ∈ v.directives, d.Legible room

/-- The field has a name, arguments, a type and directives. -/
structure Field.Legible (room : Nat) (f : Field) : Prop where
  name : isName f.name = true
  arguments : InBrackets InputValue.Legible room f.arguments
  type : f.type.Legible room
  directives : ∀ d ∈ f.directives, d.Legible room

/-- The enum value has a name and directives. -/
structure EnumValue.Legible (room : Nat) (v : EnumValue) : Prop where
  name : isName v.name = true
  directives : ∀ d ∈ v.directives, d.Legible room

/-- What the body of a type holds is legible. -/
def TypeBody.Legible (room : Nat) : TypeBody → Prop
  | .scalar => True
  | .input fields => InBrackets InputValue.Legible room fields
  | .object interfaces fields =>
    (∀ i ∈ interfaces, isName i = true) ∧ InBrackets Field.Legible room fields
  | .interface interfaces fields =>
    (∀ i ∈ interfaces, isName i = true) ∧ InBrackets Field.Legible room fields
  | .enum values => InBrackets EnumValue.Legible room values
  | .union members => ∀ m ∈ members, isName m = true

/-- The type has a name, directives and a body. -/
structure TypeDefinition.Legible (room : Nat) (t : TypeDefinition) : Prop where
  name : isName t.name = true
  directives : ∀ d ∈ t.directives, d.Legible room
  body : t.body.Legible room

/-- The directive definition has a name, arguments, and places of which at least one is given. -/
structure DirectiveDefinition.Legible (room : Nat) (d : DirectiveDefinition) : Prop where
  name : isName d.name = true
  arguments : InBrackets InputValue.Legible room d.arguments
  located : d.locations ≠ []
  locations : ∀ l ∈ d.locations, l ∈ Production.directiveLocations

end CanonicalSdl

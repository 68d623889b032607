import CanonicalSdl.Schema.Basic

/-!
# Reachable types

The types that can be reached from given names in a pool of types. A step leads from a type to
the names it refers to and, from an interface or any other name, to the object types of the pool
that list the name among their interfaces. A name stands for the last type of the pool that has
it; the names of the built-in scalar types stand for none, and neither do names that the pool
lacks.
-/

namespace CanonicalSdl

/-! ### References -/

/-- The names that a field refers to: those of its type and of the types of its arguments. -/
def Field.references (f : Field) : List String :=
  f.type.targetName :: f.arguments.map (·.type.targetName)

/-- The names that a type refers to. -/
def TypeDefinition.references (t : TypeDefinition) : List String :=
  match t.body with
  | .scalar => []
  | .input fields => fields.map (·.type.targetName)
  | .object interfaces fields => interfaces ++ fields.flatMap Field.references
  | .interface interfaces fields => interfaces ++ fields.flatMap Field.references
  | .enum _ => []
  | .union members => members

namespace Schema

/-- The names of the object types of a pool that list a name among their interfaces. -/
def implementations (types : List TypeDefinition) (name : String) : List String :=
  (types.filter fun t => t.isObject && t.implements.contains name).map (·.name)

/-- The types of a pool for which a name stands: of types with one name the last, and none with
the name of a built-in scalar type. -/
def namedTypes : List TypeDefinition → List TypeDefinition
  | [] => []
  | t :: types =>
    if builtinScalars.contains t.name || types.any (·.name == t.name) then namedTypes types
    else t :: namedTypes types

/-! ### The walk -/

/-- The first of some names for which one of the given types stands, as that type, and the names
after it. -/
def nextType? (types : List TypeDefinition) : List String → Option (TypeDefinition × List String)
  | [] => none
  | name :: names =>
    match types.find? (·.name == name) with
    | some t => some (t, names)
    | none => nextType? types names

/-- The next type is one of the given types. -/
theorem mem_of_nextType? {types : List TypeDefinition} {names rest : List String}
    {t : TypeDefinition} (h : nextType? types names = some (t, rest)) : t ∈ types := by
  induction names with
  | nil => simp [nextType?] at h
  | cons name names ih =>
    rw [nextType?] at h
    split at h
    next u hu =>
      simp only [Option.some.injEq, Prod.mk.injEq] at h
      exact h.1 ▸ List.mem_of_find?_eq_some hu
    next => exact ih h

/-- Types without those that have a given name. -/
def withoutName (name : String) (types : List TypeDefinition) : List TypeDefinition :=
  types.filter (·.name != name)

/-- Leaving out the name of one of the types leaves fewer types. -/
theorem length_withoutName_lt {types : List TypeDefinition} {t : TypeDefinition} (h : t ∈ types) :
    (withoutName t.name types).length < types.length := by
  rw [withoutName, List.length_filter_lt_length_iff_exists]
  exact ⟨t, h, by simp⟩

/-- Walks from the names of a queue through the types that have not been seen yet, and returns the
types it meets. The names that a type leads to join the end of the queue. -/
def walk (types unseen : List TypeDefinition) (queue : List String) : List TypeDefinition :=
  match _h : nextType? unseen queue with
  | none => []
  | some (t, rest) =>
    t :: walk types (withoutName t.name unseen)
      (rest ++ t.references ++ implementations types t.name)
termination_by unseen.length
decreasing_by exact length_withoutName_lt (mem_of_nextType? ‹_›)

/-- The types of a pool that can be reached from given names, in canonical order. Types whose keys
are equal are ordered by name. -/
def closure (types : List TypeDefinition) (names : List String) : List TypeDefinition :=
  sortTypes (sortByBytes (fun t => Text.utf8 t.name) (walk types (namedTypes types) names))

/-- The types that can be reached from given names. -/
def typesFrom (s : Schema) (names : List String) : List TypeDefinition :=
  closure s.types names

/-- The names of the query and mutation roots. -/
def rootNames (s : Schema) : List String :=
  s.query.name :: (s.mutation.map (·.name)).toList

/-- The types that can be reached from the query and mutation roots. -/
def rootedTypes (s : Schema) : List TypeDefinition :=
  s.typesFrom s.rootNames

end Schema

end CanonicalSdl

/-!
# Type references

A reference to a type, such as `[String!]!`: a name under list and non-null wrappers.
-/

namespace CanonicalSdl

/-- A reference to a type by name. Any nesting of the wrappers can be held, also non-null
directly inside non-null, which no text denotes. -/
inductive TypeRef where
  | named (name : String)
  | list (inner : TypeRef)
  | nonNull (inner : TypeRef)
  deriving DecidableEq, Inhabited

namespace TypeRef

/-- The name below all wrappers. -/
def targetName : TypeRef → String
  | named name => name
  | list inner => inner.targetName
  | nonNull inner => inner.targetName

/-- The text of a type reference: brackets around a list, a mark after a non-null type. -/
def text : TypeRef → String
  | named name => name
  | list inner => "[" ++ inner.text ++ "]"
  | nonNull inner => inner.text ++ "!"

example : (nonNull (list (nonNull (named "String")))).text = "[String!]!" := by decide

end TypeRef

end CanonicalSdl

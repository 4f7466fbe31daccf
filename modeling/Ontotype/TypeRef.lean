import Ontotype.Sorted

set_option autoImplicit false

/-! # References to types

What a declaration may refer to: a primitive type, another declaration, the type of one text, or
the type of references by identity. Sets of references are kept in one form, sorted by a key that
tells any two apart. -/

namespace Ontotype

/-- The primitive types. -/
inductive Primitive where
  | string
  | number
  | boolean
  deriving DecidableEq, Repr

/-- The name of a primitive type. -/
def Primitive.name : Primitive → String
  | .string => "string"
  | .number => "number"
  | .boolean => "boolean"

/-- A reference to a type. -/
inductive TypeRef where
  | primitive (type : Primitive)
  /-- A declaration, by its identifier. -/
  | named (ident : String)
  /-- The type whose only value is a text. -/
  | literal (text : String)
  /-- An object that is given by its `@id` alone. -/
  | idReference
  deriving DecidableEq, Repr

/-- The text that references are ordered by. -/
def TypeRef.key : TypeRef → String
  | .primitive type => "primitive:" ++ type.name
  | .named ident => "named:" ++ ident
  | .literal text => "literal:" ++ text
  | .idReference => "id-reference"

/-- The references of a list, each once, by key. -/
def TypeRef.sortedSet (types : List TypeRef) : List TypeRef :=
  sortWith (compareOn TypeRef.key) types.eraseDups

@[simp] theorem TypeRef.mem_sortedSet (types : List TypeRef) (t : TypeRef) :
    t ∈ TypeRef.sortedSet types ↔ t ∈ types := by
  rw [TypeRef.sortedSet, mem_sortWith, List.mem_eraseDups]

end Ontotype

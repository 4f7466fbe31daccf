import Ontotype.Graph.Basic

set_option autoImplicit false

/-! # Declarations

What is emitted for a class, before any syntax is chosen. A declaration has up to three parts:

- a *base* with the properties of the class, on top of the bases that it inherits;
- a *leaf*, which adds the discriminator that tells instances of the class apart;
- a *total* type, the union of the texts that name enumeration values, the leaf, the classes below,
  and the types that the class is another name of. -/

namespace Ontotype

/-- What a base stands on. -/
inductive Heritage where
  /-- The inherited bases, by name. -/
  | parents (names : List String)
  /-- No inherited base: the object may be given by its `@id` alone. -/
  | referenceable
  deriving DecidableEq, Repr

/-- A property of a base. -/
structure Member where
  iri : Iri
  key : String
  comment : Option String
  deprecated : Bool
  range : List TypeRef
  deriving DecidableEq, Repr

/-- The properties of a class. -/
structure Base where
  name : String
  heritage : Heritage
  members : List Member
  deriving DecidableEq, Repr

/-- The instances of a class itself. -/
structure Leaf where
  name : String
  /-- The bases that the leaf extends, by name. -/
  bases : List String
  /-- What instances have as their `@type`. -/
  discriminator : String
  deriving DecidableEq, Repr

/-- An enumeration value of a class, and the texts that may stand for it. -/
structure EnumMember where
  iri : Iri
  scopedName : String
  comment : Option String
  literals : List String
  deriving DecidableEq, Repr

/-- What is emitted for a class. -/
structure Declaration where
  iri : Iri
  scopedName : String
  ident : String
  kind : ClassKind
  comment : Option String
  deprecated : Bool
  /-- The scoped names of the superclasses, in order. -/
  parents : List String
  base : Option Base
  leaf : Option Leaf
  /-- The alternatives of the total type; a type without any has no values. -/
  total : List TypeRef
  enumMembers : List EnumMember
  deriving DecidableEq, Repr

end Ontotype

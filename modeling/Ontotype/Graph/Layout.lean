import Ontotype.Graph.Reach

set_option autoImplicit false

/-! # The layout of base declarations

A class is declared in up to three parts. Its *base* holds its properties, its *leaf* adds what
tells its instances apart, and its total type is made of the leaf and what is below the class. The
layout says which classes have a base and a leaf, and which bases each class inherits.

A class inherits from each superclass the superclass's base. A superclass without a base passes on
what it inherits itself. A base is left out where it would add nothing: in a class that is no node
type, and in a class without properties that inherits exactly one base.

Classes are settled one after the other, in the order of their identifiers, each after its
superclasses. Where the superclasses run in a circle, a class on the way down to the one in hand is
not settled yet, and contributes nothing. -/

namespace Ontotype

/-- How a class is declared. -/
structure Shape where
  ident : String
  isNodeType : Bool
  hasProperties : Bool
  /-- The names of the bases that the class inherits, as a sorted set. -/
  inherited : List String
  deriving DecidableEq, Repr, Inhabited

namespace Shape

/-- Whether the class has no base of its own. -/
def omitsBase (s : Shape) : Bool :=
  !s.isNodeType || s.inherited.length = 1 && !s.hasProperties

/-- The name that the base has. -/
def baseName (s : Shape) : String := s.ident ++ "Base"

/-- The name of the base, if there is one. -/
def base? (s : Shape) : Option String := if s.omitsBase then none else some s.baseName

/-- The name of the leaf, if there is one. -/
def leaf? (s : Shape) : Option String :=
  if s.isNodeType || !s.inherited.isEmpty then some (s.ident ++ "Leaf") else none

/-- The bases that a class below inherits. -/
def references (s : Shape) : List String :=
  if s.omitsBase then s.inherited else [s.baseName]

end Shape

/-- The shapes of the classes that have been settled, in the order of settling. -/
abbrev Layout := List (ClassId × Shape)

namespace Layout

/-- Whether a class has been settled. -/
def settled (l : Layout) (c : ClassId) : Bool := (l.lookup c).isSome

/-- The shape of a class. -/
def shape (l : Layout) (c : ClassId) : Shape := (l.lookup c).getD default

/-- The bases that a class below `c` inherits; none as long as `c` is not settled. -/
def references (l : Layout) (c : ClassId) : List String := (l.lookup c).elim [] Shape.references

end Layout

namespace Graph

/-- Classes in the order of their identifiers, and of their IRIs where those are equal. -/
def byIdentifier (g : Graph) (cs : List ClassId) : List ClassId :=
  (sortWith (compareLex (compareOn fun x => x.1) (compareOn fun x => x.2.1))
    (cs.map fun c => (g.identifier c, (g.iri c).text, c))).map fun x => x.2.2

/-- The shape of a class, given the classes that have been settled before it. -/
def shapeAfter (g : Graph) (l : Layout) (c : ClassId) : Shape :=
  { ident := g.identifier c
    isNodeType := g.isNodeType c
    hasProperties := !(g.bindingsOf c).isEmpty
    inherited := sortedSet ((g.parents c).flatMap l.references) }

/-- Settles `c` after its superclasses, unless it is settled, or is on the path that leads down to
    it. Paths are no longer than `budget`. -/
def settle (g : Graph) : Nat → List ClassId → Layout → ClassId → Layout
  | 0, _, l, _ => l
  | budget + 1, path, l, c =>
    if l.settled c ∨ c ∈ path then l
    else
      let l := (g.byIdentifier (g.parents c)).foldl (g.settle budget (c :: path)) l
      l ++ [(c, g.shapeAfter l c)]

/-- The layout of all classes. -/
def layout (g : Graph) : Layout :=
  (g.byIdentifier g.ids).foldl (g.settle g.size []) []

end Graph

end Ontotype

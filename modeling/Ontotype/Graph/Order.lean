import Ontotype.Graph.Basic

set_option autoImplicit false

/-! # The order of declarations

Builtin classes come first, then their union, then all other classes. Within each of the three,
classes are in the order of their local names, and of their IRIs where those are equal. -/

namespace Ontotype

/-- The place of a kind among the kinds. -/
def ClassKind.rank : ClassKind → Nat
  | .builtin => 0
  | .dataTypeUnion => 1
  | .ordinary => 2

/-- What decides the place of a class. -/
structure Place where
  kind : ClassKind
  name : String
  iri : String
  deriving DecidableEq, Repr

/-- Compares two places. There is one union, so any two unions count as equal. -/
def Place.compare (a b : Place) : Ordering :=
  (Ord.compare a.kind.rank b.kind.rank).then <|
    if a.kind = .dataTypeUnion then .eq
    else (Ord.compare a.name b.name).then (Ord.compare a.iri b.iri)

namespace Graph

/-- What decides the place of a class of the graph. -/
def place (g : Graph) (c : ClassId) : Place :=
  { kind := g.kind c, name := (g.iri c).localName, iri := (g.iri c).text }

/-- Compares two classes. -/
def compareClasses (g : Graph) (a b : ClassId) : Ordering :=
  (g.place a).compare (g.place b)

/-- All classes in the order in which they are declared. -/
def sortedIds (g : Graph) : List ClassId :=
  (sortWith (fun x y => x.1.compare y.1) (g.ids.map fun c => (g.place c, c))).map Prod.snd

end Graph

end Ontotype

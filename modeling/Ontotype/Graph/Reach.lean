import Ontotype.Graph.Basic

set_option autoImplicit false

/-! # Walks through the class graph

An ontology may place a class above itself, so every walk keeps the classes it has seen and enters
none of them twice. A walk nests only into classes that are new, hence never deeper than there are
classes: with that depth as its budget it is total, and the budget never cuts it short.

What a class inherits is read off the classes that a walk from it sees:

- it is *classified* if one of them is declared to be a class;
- it is a *node type* if all of them are ordinary classes, where the walk goes no further than to
  classes with properties of their own;
- it is another name of every type that one of them is another name of. -/

namespace Ontotype

/-! ## Walks -/

/-- Adds to `seen` the things that a depth-first walk from `c` sees anew, each before those that
    are next to it. The walk nests no deeper than `budget`. -/
def walk (next : Nat → List Nat) : Nat → List Nat → Nat → List Nat
  | 0, seen, _ => seen
  | budget + 1, seen, c =>
    if c ∈ seen then seen else (next c).foldl (walk next budget) (seen ++ [c])

namespace Graph

/-- The classes that a walk from `c` sees. -/
def reach (g : Graph) (next : ClassId → List ClassId) (c : ClassId) : List ClassId :=
  walk next g.size [] c

/-- A class and all classes above it. -/
def ancestors (g : Graph) (c : ClassId) : List ClassId := g.reach g.parents c

/-! ## What a class inherits -/

/-- Whether a class or one above it is declared to be a class. -/
def isClassified (g : Graph) (c : ClassId) : Bool :=
  (g.ancestors c).any fun a => (g.entry a).marked

/-- The superclasses that decide whether an ordinary class without properties of its own is a node
    type. -/
def decidingParents (g : Graph) (c : ClassId) : List ClassId :=
  if g.kind c = .ordinary ∧ g.bindingsOf c = [] then g.parents c else []

/-- Whether the members of a class are objects with properties, and not plain values. -/
def isNodeType (g : Graph) (c : ClassId) : Bool :=
  (g.reach g.decidingParents c).all fun a => g.kind a = .ordinary

/-- The types that a class is another name of, by itself or through the classes above it. -/
def aliases (g : Graph) (c : ClassId) : List TypeRef :=
  TypeRef.sortedSet ((g.ancestors c).flatMap fun a => (g.entry a).aliases)

/-! ## Validity -/

/-- Checks that every class is classified; the first that is not is reported. -/
def validate (g : Graph) : Except CompileError Unit :=
  match g.ids.find? fun c => !g.isClassified c with
  | some c => .error (.unclassified (g.iri c))
  | none => .ok ()

/-! ## Properties -/

/-- The type of a single value of a property: the classes it ranges over, and references by
    identity if one of them is a node type. -/
def rangeType (g : Graph) (p : PropertyId) : List TypeRef :=
  let ranges := (g.property p).ranges
  (sortedSet (ranges.map g.identifier)).map .named
    ++ if ranges.any g.isNodeType then [.idReference] else []

end Graph

end Ontotype

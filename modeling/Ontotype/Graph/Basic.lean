import Ontotype.Graph.Link
import Ontotype.CompileError
import Ontotype.TypeRef

set_option autoImplicit false

/-! # The class graph

Everything that an ontology says about its classes, properties and enumeration values. Each of the
three is numbered in the order in which it was added, and numbers never change their meaning: the
operations add to the tables and to the links, and take nothing away.

A class has its number from its place in the table, and its IRI from its entry; `find?` goes the
other way. What relates two numbered things is held once, in a `Link`, and read from either side,
so superclasses and subclasses, or values and their classes, can not disagree. -/

namespace Ontotype

/-! ## Tables -/

/-- The number of a class. -/
abbrev ClassId := Nat

/-- The number of a property. -/
abbrev PropertyId := Nat

/-- The number of an enumeration value. -/
abbrev ValueId := Nat

/-- The kinds of class. -/
inductive ClassKind where
  /-- Another name of a primitive type. -/
  | builtin
  /-- The union of all builtin classes. -/
  | dataTypeUnion
  | ordinary
  deriving DecidableEq, Repr, Inhabited

/-- What is known of a class itself. -/
structure ClassEntry where
  iri : Iri
  kind : ClassKind
  comment : Option String := none
  /-- The types that the class itself is another name of. -/
  aliases : List TypeRef := []
  /-- Whether the class is declared to be one. -/
  marked : Bool := false
  deriving DecidableEq, Repr, Inhabited

/-- A class of which only its kind is known. The kinds other than ordinary need no declaration. -/
def ClassEntry.ofKind (iri : Iri) (kind : ClassKind) : ClassEntry :=
  { iri, kind, marked := kind ≠ .ordinary }

/-- Another name of a type. -/
def ClassEntry.builtin (iri : Iri) (type : TypeRef) : ClassEntry :=
  { ClassEntry.ofKind iri .builtin with aliases := [type] }

/-- What is known of a property. -/
structure PropertyEntry where
  iri : Iri
  comment : Option String := none
  /-- The classes that values of the property belong to. -/
  ranges : List ClassId := []
  successors : List Term := []
  deriving DecidableEq, Repr, Inhabited

/-- Whether another property is to be used instead. -/
def PropertyEntry.isDeprecated (p : PropertyEntry) : Bool := !p.successors.isEmpty

/-- What is known of an enumeration value. -/
structure ValueEntry where
  iri : Iri
  comment : Option String := none
  deriving DecidableEq, Repr, Inhabited

/-- A property of a class, under the name `key`. -/
structure Binding where
  owner : ClassId
  property : PropertyId
  key : Iri
  deriving DecidableEq, Repr

/-- The classes, properties and enumeration values of an ontology, and how they are related. -/
structure Graph where
  classes : List ClassEntry := []
  /-- Classes and their superclasses. -/
  superclass : Link := .empty
  /-- Classes and the classes to be used instead. -/
  successor : Link := .empty
  /-- Unions and their members. -/
  unionMember : Link := .empty
  properties : List PropertyEntry := []
  bindings : List Binding := []
  values : List ValueEntry := []
  /-- Classes and their enumeration values. -/
  membership : Link := .empty
  deriving Inhabited

namespace Graph

/-- The graph of nothing. -/
def empty : Graph := {}

/-! ## Reading -/

/-- The number of classes. -/
def size (g : Graph) : Nat := g.classes.length

/-- The numbers of all classes. -/
def ids (g : Graph) : List ClassId := List.range g.size

/-- The number of the class with an IRI. -/
def find? (g : Graph) (iri : Iri) : Option ClassId := g.classes.findIdx? (·.iri = iri)

/-- The entry of a class; a number that no class has reads as a class without a name. -/
def entry (g : Graph) (c : ClassId) : ClassEntry := (g.classes[c]?).getD default

/-- The entry of a property. -/
def property (g : Graph) (p : PropertyId) : PropertyEntry := (g.properties[p]?).getD default

/-- The entry of an enumeration value. -/
def value (g : Graph) (v : ValueId) : ValueEntry := (g.values[v]?).getD default

/-- The IRI of a class. -/
def iri (g : Graph) (c : ClassId) : Iri := (g.entry c).iri

/-- The kind of a class. -/
def kind (g : Graph) (c : ClassId) : ClassKind := (g.entry c).kind

/-- The identifier that a class is declared under. -/
def identifier (g : Graph) (c : ClassId) : String := (g.iri c).identifier

/-- The classes directly above a class. -/
def parents (g : Graph) (c : ClassId) : List ClassId := g.superclass.targets c

/-- The classes directly below a class. -/
def children (g : Graph) (c : ClassId) : List ClassId := g.superclass.sources c

/-- The classes to be used instead of a class. -/
def successors (g : Graph) (c : ClassId) : List ClassId := g.successor.targets c

/-- Whether another class is to be used instead. -/
def isDeprecated (g : Graph) (c : ClassId) : Bool := !(g.successors c).isEmpty

/-- The members of a union. -/
def unionMembers (g : Graph) (c : ClassId) : List ClassId := g.unionMember.targets c

/-- The properties that a class has of its own. -/
def bindingsOf (g : Graph) (c : ClassId) : List Binding := g.bindings.filter (·.owner = c)

/-- The enumeration values of a class. -/
def valuesOf (g : Graph) (c : ClassId) : List ValueId := g.membership.targets c

/-- The classes of an enumeration value. -/
def ownersOf (g : Graph) (v : ValueId) : List ClassId := g.membership.sources v

/-- A class found under an IRI has that IRI. -/
theorem iri_of_find? {g : Graph} {iri : Iri} {c : ClassId} (h : g.find? iri = some c) :
    g.iri c = iri := by
  obtain ⟨lt, eq, _⟩ := List.findIdx?_eq_some_iff_getElem.1 h
  rw [Graph.iri, entry, List.getElem?_eq_getElem lt]
  exact of_decide_eq_true eq

/-- A class found under an IRI is one of the classes. -/
theorem mem_ids_of_find? {g : Graph} {iri : Iri} {c : ClassId} (h : g.find? iri = some c) :
    c ∈ g.ids := by
  obtain ⟨lt, _, _⟩ := List.findIdx?_eq_some_iff_getElem.1 h
  exact List.mem_range.2 lt

/-- Superclasses and subclasses are two readings of one link. -/
theorem mem_parents_iff_mem_children {g : Graph} {c p : ClassId} :
    p ∈ g.parents c ↔ c ∈ g.children p :=
  Link.mem_targets_iff_mem_sources

/-- Values and their classes are two readings of one link. -/
theorem mem_valuesOf_iff_mem_ownersOf {g : Graph} {c : ClassId} {v : ValueId} :
    v ∈ g.valuesOf c ↔ c ∈ g.ownersOf v :=
  Link.mem_targets_iff_mem_sources

/-- The class that the object of a statement names. -/
def resolve (g : Graph) (s : Statement) : Except CompileError ClassId :=
  match s.object.iri? with
  | none => .error (.notAReference s)
  | some iri =>
    match g.find? iri with
    | none => .error (.unknownClass s)
    | some c => .ok c

/-! ## Adding classes -/

/-- Adds a class, unless its IRI is known; returns the number that the IRI has then. -/
def insert (g : Graph) (e : ClassEntry) : Graph × ClassId :=
  match g.find? e.iri with
  | some c => (g, c)
  | none => ({ g with classes := g.classes ++ [e] }, g.size)

/-- What has been added is found under its IRI. -/
theorem find?_insert_self (g : Graph) (e : ClassEntry) :
    (g.insert e).1.find? e.iri = some (g.insert e).2 := by
  rw [insert]
  cases h : g.find? e.iri with
  | some c => exact h
  | none => simp [find?, List.findIdx?_append, size, show g.classes.findIdx? _ = none from h]

/-- Changes the entry of a class. -/
def modifyClass (g : Graph) (c : ClassId) (f : ClassEntry → ClassEntry) : Graph :=
  { g with classes := g.classes.modify c f }

/-- Gives a class a comment. -/
def setComment (g : Graph) (c : ClassId) (text : String) : Graph :=
  g.modifyClass c fun e => { e with comment := some text }

/-- Says whether a class is declared to be one. -/
def setMarked (g : Graph) (c : ClassId) (marked : Bool) : Graph :=
  g.modifyClass c fun e => { e with marked }

/-- Makes a class another name of a type. -/
def addAlias (g : Graph) (c : ClassId) (type : TypeRef) : Graph :=
  g.modifyClass c fun e => { e with aliases := e.aliases ++ [type] }

/-- Puts a class below another one. -/
def addParent (g : Graph) (child parent : ClassId) : Graph :=
  { g with superclass := g.superclass.add child parent }

/-- Names a class to be used instead of another one. -/
def addSuccessor (g : Graph) (c successor : ClassId) : Graph :=
  { g with successor := g.successor.add c successor }

/-- Adds a member to a union. -/
def addUnionMember (g : Graph) (union member : ClassId) : Graph :=
  { g with unionMember := g.unionMember.add union member }

/-! ## Adding properties -/

/-- Adds a property; returns its number. -/
def addProperty (g : Graph) (iri : Iri) : Graph × PropertyId :=
  ({ g with properties := g.properties ++ [{ iri := iri }] }, g.properties.length)

/-- Changes the entry of a property. -/
def modifyProperty (g : Graph) (p : PropertyId) (f : PropertyEntry → PropertyEntry) :
    Graph :=
  { g with properties := g.properties.modify p f }

/-- Gives a property a comment. -/
def setPropertyComment (g : Graph) (p : PropertyId) (text : String) : Graph :=
  g.modifyProperty p fun e => { e with comment := some text }

/-- Adds a class to the ranges of a property. -/
def addRange (g : Graph) (p : PropertyId) (c : ClassId) : Graph :=
  g.modifyProperty p fun e => { e with ranges := e.ranges ++ [c] }

/-- Names what is to be used instead of a property. -/
def addPropertySuccessor (g : Graph) (p : PropertyId) (t : Term) : Graph :=
  g.modifyProperty p fun e => { e with successors := e.successors ++ [t] }

/-- Gives a class a property, unless it has it already. -/
def bind (g : Graph) (b : Binding) : Graph :=
  if g.bindings.any fun b' => b'.owner = b.owner && b'.property = b.property then g
  else { g with bindings := g.bindings ++ [b] }

/-! ## Adding enumeration values -/

/-- Adds an enumeration value; returns its number. -/
def addValue (g : Graph) (iri : Iri) : Graph × ValueId :=
  ({ g with values := g.values ++ [{ iri := iri }] }, g.values.length)

/-- Gives an enumeration value a comment. -/
def setValueComment (g : Graph) (v : ValueId) (text : String) : Graph :=
  { g with values := g.values.modify v fun e => { e with comment := some text } }

/-- Makes an enumeration value a member of a class. -/
def addMember (g : Graph) (c : ClassId) (v : ValueId) : Graph :=
  { g with membership := g.membership.add c v }

end Graph

end Ontotype

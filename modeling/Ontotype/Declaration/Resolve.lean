import Ontotype.Graph.Layout
import Ontotype.Context
import Ontotype.Declaration.Basic

set_option autoImplicit false

/-! # From classes to declarations

A resolver holds what the declaration of a class is made from: the class graph and its layout, the
context that gives the names, and whether deprecated classes and properties are included. Deprecated
ones that are not included count in the layout all the same; they are only left out of members and
of total types. -/

namespace Ontotype

/-! ## Comments -/

/-- The note that names what is to be used instead. -/
def deprecationNote (names : List String) : String :=
  "@deprecated Use " ++ String.intercalate " or " (sortedSet names) ++ " instead."

/-- A comment with a note on a line of its own. -/
def withNote : Option String → Option String → Option String
  | some comment, some note => some (comment ++ "\n" ++ note)
  | some comment, none => some comment
  | none, note => note

/-! ## Resolving -/

/-- What declarations are made from. -/
structure Resolver where
  graph : Graph
  layout : Layout
  context : Context
  includeDeprecated : Bool

namespace Resolver

/-- The resolver of a graph. -/
def ofGraph (graph : Graph) (context : Context) (includeDeprecated : Bool) : Resolver :=
  { graph, layout := graph.layout, context, includeDeprecated }

/-- The name of an entity. -/
def nameOf (r : Resolver) (iri : Iri) : String := r.context.scopedName iri

/-- Whether a class is included. -/
def visible (r : Resolver) (c : ClassId) : Bool :=
  r.includeDeprecated || !r.graph.isDeprecated c

/-- Whether a property is included. -/
def visibleProperty (r : Resolver) (p : PropertyId) : Bool :=
  r.includeDeprecated || !(r.graph.property p).isDeprecated

/-- The name of a term: that of the entity that it names, or else the text itself. -/
def termName (r : Resolver) (t : Term) : String :=
  match t, t.iri? with
  | .literal value _, _ => value
  | _, some iri => r.nameOf iri
  | t, none => t.shown

/-- The comment of a class, with a note if the class is deprecated. -/
def commentOf (r : Resolver) (c : ClassId) : Option String :=
  withNote (r.graph.entry c).comment <|
    if r.graph.isDeprecated c then
      some (deprecationNote ((r.graph.successors c).map fun s => r.nameOf (r.graph.iri s)))
    else none

/-! ## Base and leaf -/

/-- A property of a class. -/
def member (r : Resolver) (b : Binding) : Member :=
  let p := r.graph.property b.property
  { iri := p.iri
    key := r.nameOf b.key
    comment :=
      withNote p.comment <|
        if p.isDeprecated then some (deprecationNote (p.successors.map r.termName)) else none
    deprecated := p.isDeprecated
    range := r.graph.rangeType b.property }

/-- The included properties of a class, by key. -/
def members (r : Resolver) (c : ClassId) : List Member :=
  sortWith (compareLex (compareOn Member.key) (compareOn fun m => m.iri.text))
    (((r.graph.bindingsOf c).filter fun b => r.visibleProperty b.property).map r.member)

/-- The base of a class, if it has one. -/
def base? (r : Resolver) (c : ClassId) : Option Base :=
  (r.layout.shape c).base?.map fun name =>
    { name
      heritage :=
        match (r.layout.shape c).inherited with
        | [] => .referenceable
        | names => .parents names
      members := r.members c }

/-- The leaf of a class, if it has one. It extends the base of the class, or without one the bases
    that the class inherits. -/
def leaf? (r : Resolver) (c : ClassId) : Option Leaf :=
  (r.layout.shape c).leaf?.map fun name =>
    { name
      bases :=
        match r.base? c with
        | some base => [base.name]
        | none => (r.layout.shape c).inherited
      discriminator := r.nameOf (r.graph.iri c) }

/-! ## Enumeration values -/

/-- The texts that may stand for an enumeration value: its IRI, also in the `https:` form, and its
    name. -/
def spellings (r : Resolver) (v : ValueId) : List String :=
  let iri := (r.graph.value v).iri
  let secure :=
    match Text.stripStart? "http:".toList iri.text.toList with
    | some rest => ["https:" ++ String.ofList rest]
    | none => []
  sortedSet (iri.text :: secure ++ [r.nameOf iri])

/-- An enumeration value of a class. -/
def enumMember (r : Resolver) (v : ValueId) : EnumMember :=
  let value := r.graph.value v
  { iri := value.iri
    scopedName := r.nameOf value.iri
    comment := value.comment
    literals := r.spellings v }

/-- The enumeration values of a class, by name. -/
def enumMembers (r : Resolver) (c : ClassId) : List EnumMember :=
  sortWith (compareLex (compareOn EnumMember.scopedName) (compareOn fun m => m.iri.text))
    ((r.graph.valuesOf c).map r.enumMember)

/-! ## The total type -/

/-- The alternatives of the total type of a class. -/
def totalOfClass (r : Resolver) (c : ClassId) : List TypeRef :=
  (sortedSet ((r.graph.valuesOf c).flatMap r.spellings)).map .literal
    ++ (r.leaf? c).toList.map (fun leaf => .named leaf.name)
    ++ (sortedSet (((r.graph.children c).filter r.visible).map r.graph.identifier)).map .named
    ++ r.graph.aliases c

/-- The alternatives of a union. -/
def totalOfUnion (r : Resolver) (c : ClassId) : List TypeRef :=
  (sortedSet ((r.graph.unionMembers c).map r.graph.identifier)).map .named

/-! ## Declarations -/

/-- The declaration of a class. -/
def declaration (r : Resolver) (c : ClassId) : Declaration :=
  let isUnion := r.graph.kind c = .dataTypeUnion
  { iri := r.graph.iri c
    scopedName := r.nameOf (r.graph.iri c)
    ident := r.graph.identifier c
    kind := r.graph.kind c
    comment := r.commentOf c
    deprecated := r.graph.isDeprecated c
    parents :=
      sortWith compare ((r.graph.parents c).map fun p => r.nameOf (r.graph.iri p))
    base := if isUnion then none else r.base? c
    leaf := if isUnion then none else r.leaf? c
    total := if isUnion then r.totalOfUnion c else r.totalOfClass c
    enumMembers := r.enumMembers c }

end Resolver

end Ontotype

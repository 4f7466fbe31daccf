import Ontotype.Proofs.Declaration.Hiding

set_option autoImplicit false

/-! # Mentions of hidden classes

A deprecated class that is not included is not declared, and is left out where the classes below
another one are listed. Nothing else asks whether a class is declared: not the members of the union,
the ranges of properties, the bases that a class inherits from, or the class of all things. So what
is compiled may name a class that has no declaration, in every place but the lists of children
(`mentions_retiredStatements`). `hides_of_compile` says when such a name is left over. -/

namespace Ontotype

open Vocabulary

/-- The places where what is compiled may mention a class. -/
inductive Mention where
  /-- In the total type of a class. -/
  | total
  /-- In the total type of the union. -/
  | unionTotal
  /-- In the range of a member. -/
  | range
  /-- Among the bases that a base stands on. -/
  | heritage
  /-- Among the bases that a leaf extends. -/
  | leafBases
  /-- As the class of all objects. -/
  | root
  deriving DecidableEq, Repr

theorem Mention.forall_iff {P : Mention → Prop} : (∀ m, P m) ↔
    P .total ∧ P .unionTotal ∧ P .range ∧ P .heritage ∧ P .leafBases ∧ P .root := by
  constructor
  · exact fun h => ⟨h _, h _, h _, h _, h _, h _⟩
  · rintro ⟨h₁, h₂, h₃, h₄, h₅, h₆⟩ m
    cases m <;> assumption

namespace Compiled

/-- Whether a class is mentioned: by its identifier where types are named, and by the name of its
    base where bases are. -/
def Mentions (r : Compiled) (c : ClassId) : Mention → Prop
  | .total => ∃ D ∈ r.declarations, D.kind ≠ .dataTypeUnion ∧
      .named (r.graph.identifier c) ∈ D.total
  | .unionTotal => ∃ D ∈ r.declarations, D.kind = .dataTypeUnion ∧
      .named (r.graph.identifier c) ∈ D.total
  | .range => ∃ D ∈ r.declarations, ∃ b ∈ D.base, ∃ m ∈ b.members,
      .named (r.graph.identifier c) ∈ m.range
  | .heritage => ∃ D ∈ r.declarations, ∃ b ∈ D.base,
      r.graph.identifier c ++ "Base" ∈ b.heritage.names
  | .leafBases => ∃ D ∈ r.declarations, ∃ leaf ∈ D.leaf,
      r.graph.identifier c ++ "Base" ∈ leaf.bases
  | .root => r.preamble.root = some (r.graph.identifier c)

/-- The class is not declared, and its name is left over in no places but these. A leaf may have the
    identifier of another class as its name. -/
structure Hides (ss : List Statement) (r : Compiled) (c : ClassId) : Prop where
  undeclared : ∀ D ∈ r.declarations, D.iri ≠ r.graph.iri c ∧ D.ident ≠ r.graph.identifier c
  total : ∀ D ∈ r.declarations, D.kind ≠ .dataTypeUnion →
    .named (r.graph.identifier c) ∈ D.total →
      ∃ leaf, D.leaf = some leaf ∧ leaf.name = r.graph.identifier c
  unionTotal : ∀ D ∈ r.declarations, D.kind = .dataTypeUnion →
    .named (r.graph.identifier c) ∈ D.total → r.graph.kind c = .builtin
  range : ∀ D ∈ r.declarations, ∀ b, D.base = some b → ∀ m ∈ b.members,
    .named (r.graph.identifier c) ∈ m.range → Says ss m.iri .rangeIncludes (r.graph.iri c)
  heritage : ∀ D ∈ r.declarations, ∀ b, D.base = some b →
    r.graph.identifier c ++ "Base" ∈ b.heritage.names →
      ∃ d, r.graph.find? D.iri = some d ∧ Relation.TransGen r.graph.Below d c
  leafBases : ∀ D ∈ r.declarations, ∀ leaf, D.leaf = some leaf →
    r.graph.identifier c ++ "Base" ∈ leaf.bases →
      ∃ d, r.graph.find? D.iri = some d ∧ Relation.TransGen r.graph.Below d c
  root : r.preamble.root = some (r.graph.identifier c) →
    r.graph.kind c = .ordinary ∧ (r.graph.iri c).isSchema "Thing" = true

end Compiled

/-! ## Where a name can come from -/

section

variable {g : Graph} {c p : ClassId}

/-- The base of a class is passed on by nothing but the classes below it. -/
theorem Layout.Arises.above_of_baseName {l : Layout} (h : Arises g l) (hid : g.DistinctIdentifiers)
    (hc : c ∈ g.ids) (hn : g.identifier c ++ "Base" ∈ l.references p) : g.Above p c := by
  obtain ⟨a, t, hpa, ht, hbase⟩ := h.base_of_passed_on hn
  obtain ⟨ha, hident, _⟩ := h.shape_of_class ht
  have hsame : g.identifier c = t.ident :=
    (String.append_left_inj "Base").1 (Shape.eq_baseName hbase)
  rwa [hid.eq_of_identifier_eq hc ha (hsame.trans hident)]

end

/-! ## Hidden classes -/

/-- **Where the name of a class without a declaration is left over.** A deprecated class that is not
    included is not declared, and is no class below another one in a total type. Its name may be
    left over in the union, if it is a builtin class; in the range of a property, if a statement
    gives it to the property; in what a class below it inherits; and as the class of all things. -/
theorem hides_of_compile {o : Options} {ss : List Statement} {r : Compiled} {c : ClassId}
    (ho : o.includeDeprecated = false) (h : compile o ss = .ok r)
    (hid : r.graph.DistinctIdentifiers) (hc : c ∈ r.graph.ids)
    (hdeprecated : r.graph.isDeprecated c = true) : r.Hides ss c := by
  have hp := portrays_of_compile h
  have hg := hp.inRange
  obtain ⟨harises, hsettled⟩ := layout_arises hg
  have hdeclared : ∀ D ∈ r.declarations, ∃ d ∈ r.graph.ids, d ≠ c ∧
      (Resolver.ofGraph r.graph o.context false).declaration d = D := by
    intro D hD
    rw [(compiled_of_compile h).2.1, mem_declarationsOf, ho] at hD
    obtain ⟨d, hd, hvisible, hD⟩ := hD
    refine ⟨d, hd, ?_, hD⟩
    rintro rfl
    rw [Resolver.visible_false, hdeprecated] at hvisible
    exact absurd hvisible (by simp)
  have hfind : ∀ d ∈ r.graph.ids, r.graph.find? (r.graph.iri d) = some d :=
    fun d hd => Graph.find?_iri hp.nodup_classIris hd
  constructor
  case undeclared =>
    intro D hD
    obtain ⟨d, hd, hne, rfl⟩ := hdeclared D hD
    exact ⟨fun heq => hne (Graph.eq_of_iri_eq hp.nodup_classIris hd hc heq),
      fun heq => hne (hid.eq_of_identifier_eq hd hc heq)⟩
  case total =>
    intro D hD hkind hn
    obtain ⟨d, hd, hne, rfl⟩ := hdeclared D hD
    refine (Resolver.named_mem_total_of_class hg hd hp.aliases_primitive hkind hn).resolve_right ?_
    rintro ⟨e, he, hvisible, hname⟩
    have heids : e ∈ r.graph.ids := (hg.superclass (e, d) (Link.mem_sources.1 he)).1
    rw [hid.eq_of_identifier_eq heids hc hname, Resolver.visible_false, hdeprecated] at hvisible
    exact absurd hvisible (by simp)
  case unionTotal =>
    intro D hD hkind hn
    obtain ⟨d, hd, hne, rfl⟩ := hdeclared D hD
    obtain ⟨e, he, hname⟩ := Resolver.named_mem_total_of_union hkind hn
    have heids : e ∈ r.graph.ids := (hg.unionMember (d, e) (Link.mem_targets.1 he)).2
    rw [← hid.eq_of_identifier_eq heids hc hname]
    exact ((hp.unionMember d hd e heids).1 he).2
  case range =>
    intro D hD b hb m hm hn
    obtain ⟨d, hd, hne, rfl⟩ := hdeclared D hD
    rw [(Resolver.base_spec (Resolver.base_of_declaration hb)).2.2] at hm
    obtain ⟨p, hlt, hiri, e, he, hname⟩ := Resolver.ranges_of_named_mem hg hm hn
    have heids : e ∈ r.graph.ids := hg.range _ (Graph.property_mem hlt) e he
    obtain rfl := hid.eq_of_identifier_eq heids hc hname
    rw [hiri]
    exact (hp.range p hlt e hc).1 he
  case heritage =>
    intro D hD b hb hn
    obtain ⟨d, hd, hne, rfl⟩ := hdeclared D hD
    obtain ⟨s, hs, _, hnames, _⟩ := Resolver.lookup_of_base hg hd hb
    obtain ⟨p, hdp, hmem⟩ := harises.passed_on_of_inherited hs (hnames ▸ hn)
    exact ⟨d, hfind d hd, Relation.TransGen.head' hdp (harises.above_of_baseName hid hc hmem)⟩
  case leafBases =>
    intro D hD leaf hleaf hn
    obtain ⟨d, hd, hne, rfl⟩ := hdeclared D hD
    obtain ⟨s, hs⟩ := Layout.settled_iff.1 (hsettled d hd)
    have hshape : (Resolver.ofGraph r.graph o.context false).layout.shape d = s :=
      Layout.shape_of_lookup hs
    rw [(Resolver.leaf_spec (Resolver.leaf_of_declaration hleaf).2).2, hshape,
      ← Layout.references_of_lookup hs] at hn
    have habove := harises.above_of_baseName hid hc hn
    refine ⟨d, hfind d hd, ?_⟩
    exact (Relation.reflTransGen_iff_eq_or_transGen.1 habove).resolve_left (Ne.symm hne)
  case root =>
    intro hn
    rw [(compiled_of_compile h).2.2, Preamble.ofGraph, Option.map_eq_some_iff] at hn
    obtain ⟨e, he, hname⟩ := hn
    have hthing := List.find?_some he
    rw [hid.eq_of_identifier_eq (List.mem_of_find?_eq_some he) hc hname] at hthing
    simpa using hthing

/-- An ontology with superseded classes that other statements refer to. `Thing` is superseded, and
    is above `Person` and `Robot` and the range of `knows`; so is the builtin class `Date`, and a
    class with the name of the leaf of `Robot`. -/
def retiredStatements : List Statement :=
  let term := Edition.https.term
  [{ subject := term "Thing", predicate := rdfType, object := .entity rdfsClass },
   { subject := term "Thing", predicate := term "supersededBy", object := .entity (term "Entity") },
   { subject := term "Entity", predicate := rdfType, object := .entity rdfsClass },
   { subject := term "Person", predicate := rdfsSubClassOf, object := .entity (term "Thing") },
   { subject := term "Robot", predicate := rdfsSubClassOf, object := .entity (term "Thing") },
   { subject := term "RobotLeaf", predicate := rdfType, object := .entity rdfsClass },
   { subject := term "RobotLeaf", predicate := term "supersededBy",
     object := .entity (term "Robot") },
   { subject := term "Date", predicate := rdfType, object := .entity rdfsClass },
   { subject := term "Date", predicate := term "supersededBy",
     object := .entity (term "DateTime") },
   { subject := term "knows", predicate := rdfType, object := .entity rdfProperty },
   { subject := term "knows", predicate := term "domainIncludes",
     object := .entity (term "Person") },
   { subject := term "knows", predicate := term "rangeIncludes", object := .entity (term "Thing") }]

/-- `Thing` has the number 7: the builtin classes and their union come first, then the classes in
    order of appearance. -/
theorem graph_retiredStatements : (compile {} retiredStatements).isOk = true ∧
    ((assembledGraph retiredStatements).ids.map
      (assembledGraph retiredStatements).identifier).Nodup ∧
    7 ∈ (assembledGraph retiredStatements).ids ∧
    (assembledGraph retiredStatements).identifier 7 = "Thing" ∧
    (assembledGraph retiredStatements).isDeprecated 7 = true := by
  decide +kernel

theorem hides_retiredStatements :
    ∃ r, compile {} retiredStatements = .ok r ∧ ∃ c ∈ r.graph.ids,
      r.graph.identifier c = "Thing" ∧ r.graph.isDeprecated c = true ∧
        r.Hides retiredStatements c := by
  obtain ⟨hok, hid, hmem, hname, hdeprecated⟩ := graph_retiredStatements
  obtain ⟨r, hr⟩ := isOk_iff.1 hok
  rw [← (compiled_of_compile hr).1] at hid hmem hname hdeprecated
  exact ⟨r, hr, 7, hmem, hname, hdeprecated, hides_of_compile rfl hr hid hmem hdeprecated⟩

/-- Classes that are not declared are mentioned in all places, distinct as the identifiers are. -/
theorem mentions_retiredStatements :
    ∃ r, compile {} retiredStatements = .ok r ∧ r.graph.DistinctIdentifiers ∧
      ∀ m : Mention, ∃ c ∈ r.graph.ids, r.graph.isDeprecated c = true ∧ r.Mentions c m := by
  obtain ⟨hok, hid, _⟩ := graph_retiredStatements
  obtain ⟨r, hr⟩ := isOk_iff.1 hok
  obtain ⟨hgraph, hdeclarations, hpreamble⟩ := compiled_of_compile hr
  rw [hgraph] at hdeclarations hpreamble
  refine ⟨r, hr, ?_, ?_⟩
  · rw [hgraph]
    exact hid
  · rw [Mention.forall_iff]
    simp only [Compiled.Mentions, hgraph, hdeclarations, hpreamble]
    decide +kernel

end Ontotype

import Ontotype.Proofs.Declaration.Totals

set_option autoImplicit false

/-! # Types without values

A total type without alternatives has no values, and whatever refers to it can not be used. Every
part of a total type has a say in this, and each can be told from the statements: a class without
values is an ordinary one with nothing of its own, and what keeps it from being a node type is the
union of the builtin classes, which is above it and gives it nothing. So only classes below the
union can be without values (`bottom_of_compile`). -/

namespace Ontotype

open Vocabulary

variable {edition : Edition} {ss : List Statement} {o : Options} {r : Compiled} {D : Declaration}
  {t : TotalParts}

/-! ## Empty parts -/

/-- The statements give the class of the declaration nothing that a value could come from. A way up
    that is taken for want of properties leads to the union of the builtin classes, and none leads
    to a builtin class. -/
structure Declaration.Bare (o : Options) (ss : List Statement) (D : Declaration) : Prop where
  ordinary : D.kind = .ordinary
  noProperty : ¬ HasProperty ss D.iri
  noValue : ∀ a, ¬ IsValueOf ss a D.iri
  noChild : ∀ a, SaysBelow ss a D.iri → ¬ Included o.includeDeprecated ss a
  noBuiltin : ∀ a, Relation.ReflTransGen (SaysBelow ss) D.iri a →
    (declaredEntry (editionOf (topicsOf ss)) ss a).kind ≠ .builtin
  union : Relation.ReflTransGen (SaysDecidedBy (editionOf (topicsOf ss)) ss) D.iri
    ((editionOf (topicsOf ss)).term "DataType")

theorem TotalParts.types_eq_nil_iff :
    t.types = [] ↔ t.texts = [] ∧ t.leaf = none ∧ t.children = [] ∧ t.aliases = [] := by
  cases hleaf : t.leaf <;> simp [types, hleaf]

namespace TotalParts.Said

variable (ht : t.Said o ss r D)
  (hkind : D.kind = (declaredEntry (editionOf (topicsOf ss)) ss D.iri).kind)

include ht

theorem texts_eq_nil_iff : t.texts = [] ↔ ∀ a, ¬ IsValueOf ss a D.iri := by
  rw [List.eq_nil_iff_forall_not_mem]
  constructor
  · exact fun hnone a ha => hnone a.text ((ht.texts _).2 ⟨a, ha, Or.inl rfl⟩)
  · intro hnone x hx
    obtain ⟨a, ha, _⟩ := (ht.texts x).1 hx
    exact hnone a ha

theorem leaf_eq_none_iff : t.leaf = none ↔
    ¬ IsNodeType (editionOf (topicsOf ss)) ss D.iri ∧ r.inherited D.iri = [] := by
  rw [Option.eq_none_iff_forall_ne_some, ← not_ne_iff (a := r.inherited D.iri), ← not_or]
  constructor
  · exact fun hnone hsome => hnone _ ((ht.leaf _).2 ⟨rfl, hsome⟩)
  · exact fun hnone n hn => hnone ((ht.leaf n).1 hn).2

theorem children_eq_nil_iff : t.children = [] ↔
    ∀ a, SaysBelow ss a D.iri → ¬ Included o.includeDeprecated ss a := by
  rw [List.eq_nil_iff_forall_not_mem]
  constructor
  · intro hnone a ha hincluded
    obtain ⟨hbelow, hclass⟩ := saysBelow_iff.1 ha
    exact hnone a.identifier ((ht.children _).2 ⟨a, hbelow, hclass, hincluded, rfl⟩)
  · intro hnone n hn
    obtain ⟨a, hbelow, hclass, hincluded, _⟩ := (ht.children n).1 hn
    exact hnone a (saysBelow_iff.2 ⟨hbelow, hclass⟩) hincluded

theorem aliases_eq_nil_iff : t.aliases = [] ↔
    ∀ a, Relation.ReflTransGen (SaysBelow ss) D.iri a →
      (declaredEntry (editionOf (topicsOf ss)) ss a).kind ≠ .builtin := by
  rw [List.eq_nil_iff_forall_not_mem]
  constructor
  · intro hnone a ha hbuiltin
    obtain ⟨s, hs⟩ := List.exists_mem_of_ne_nil _ (aliases_declaredEntry_ne_nil_iff.2 hbuiltin)
    exact hnone s ((ht.aliases s).2 ⟨a, ha, hs⟩)
  · intro hnone s hs
    obtain ⟨a, ha, hs⟩ := (ht.aliases s).1 hs
    exact hnone a ha (aliases_declaredEntry_ne_nil_iff.1 (List.ne_nil_of_mem hs))

include hkind

/-- The parts are all empty if the class is bare, and inherits no base from elsewhere. -/
theorem types_eq_nil_iff_bare (hclass : D.kind ≠ .dataTypeUnion) :
    t.types = [] ↔ D.Bare o ss ∧ r.inherited D.iri = [] := by
  rw [TotalParts.types_eq_nil_iff, ht.texts_eq_nil_iff, ht.leaf_eq_none_iff,
    ht.children_eq_nil_iff, ht.aliases_eq_nil_iff]
  constructor
  · rintro ⟨hvalue, ⟨hnode, hinherited⟩, hchild, hbuiltin⟩
    have hordinary : D.kind = .ordinary := by
      have hself := hbuiltin D.iri .refl
      rw [← hkind] at hself
      cases hD : D.kind <;> simp_all
    obtain ⟨u, hway, hu⟩ : ∃ u, Relation.ReflTransGen
        (SaysDecidedBy (editionOf (topicsOf ss)) ss) D.iri u ∧
          (declaredEntry (editionOf (topicsOf ss)) ss u).kind ≠ .ordinary := by
      simpa only [IsNodeType, not_forall, exists_prop] using hnode
    -- what is above the class is not builtin, so what is not ordinary is the union
    have hunion : (declaredEntry (editionOf (topicsOf ss)) ss u).kind = .dataTypeUnion := by
      have hnot := hbuiltin u (above_of_decided hway)
      cases hku : (declaredEntry (editionOf (topicsOf ss)) ss u).kind <;> simp_all
    refine ⟨⟨hordinary, fun hproperty => hnode ?_, hvalue, hchild, hbuiltin, ?_⟩, hinherited⟩
    · exact isNodeType_of_hasProperty (hkind.symm.trans hordinary) hproperty
    · exact eq_of_kind_declaredEntry hunion ▸ hway
  · rintro ⟨hbare, hinherited⟩
    refine ⟨hbare.noValue, ⟨fun hnode => ?_, hinherited⟩, hbare.noChild, hbare.noBuiltin⟩
    exact absurd ((hnode _ hbare.union).symm.trans (kind_declaredEntry_union.2 rfl)) (by decide)

end TotalParts.Said

/-- A bare class is below the union. -/
theorem Declaration.Bare.below_union (h : D.Bare o ss)
    (hkind : D.kind = (declaredEntry (editionOf (topicsOf ss)) ss D.iri).kind) :
    Relation.TransGen (SaysBelow ss) D.iri ((editionOf (topicsOf ss)).term "DataType") := by
  rcases Relation.reflTransGen_iff_eq_or_transGen.1 (above_of_decided h.union) with heq | hway
  · have hunion := hkind.trans (kind_declaredEntry_union.2 heq.symm)
    exact absurd (h.ordinary.symm.trans hunion) (by decide)
  · exact hway

/-- The union is never without alternatives, as the builtin classes are there from the start. -/
theorem Portrays.totalOfUnion_ne_nil {g : Graph} (hp : Portrays edition ss g) (context : Context)
    (includeDeprecated : Bool) {c : ClassId} (hc : c ∈ g.ids) (hkind : g.kind c = .dataTypeUnion) :
    (Resolver.ofGraph g context includeDeprecated).totalOfUnion c ≠ [] := by
  have hknown : KnownClass edition ss (edition.term "Text") := Or.inl (by simp [seedIris, builtins])
  have hbuiltin : (declaredEntry edition ss (edition.term "Text")).kind = .builtin :=
    kind_declaredEntry_builtin.2 (Or.inl ⟨_, List.mem_cons_self, rfl⟩)
  obtain ⟨d, hd, hname⟩ := (hp.exists_unionMember_iff hc hkind).2 ⟨_, hknown, hbuiltin, rfl⟩
  exact List.ne_nil_of_mem (Resolver.named_mem_identifiers.2 ⟨d, hd, hname⟩)

/-- **Which types have no values.** The total type of a declaration is without alternatives, and
    written as `never`, exactly if its class is bare and inherits no base. That takes a way up to
    the union of the builtin classes, so no class is without values that is not below the union,
    directly or through others. -/
theorem bottom_of_compile (h : compile o ss = .ok r) (hD : D ∈ r.declarations) :
    (D.total = [] ↔ D.Bare o ss ∧ r.inherited D.iri = []) ∧
    (¬ Relation.TransGen (SaysBelow ss) D.iri ((editionOf (topicsOf ss)).term "DataType") →
      D.total ≠ []) := by
  have hp := portrays_of_compile h
  rw [(compiled_of_compile h).2.1, mem_declarationsOf] at hD
  obtain ⟨c, hc, _, rfl⟩ := hD
  have hkind := hp.kind c hc
  have hexact :
      ((Resolver.ofGraph r.graph o.context o.includeDeprecated).declaration c).total = [] ↔
      ((Resolver.ofGraph r.graph o.context o.includeDeprecated).declaration c).Bare o ss ∧
        r.inherited (r.graph.iri c) = [] := by
    by_cases hunion : r.graph.kind c = .dataTypeUnion
    · rw [Resolver.total_of_union hunion]
      refine iff_of_false (hp.totalOfUnion_ne_nil _ _ hc hunion) fun hbare => ?_
      exact absurd (hbare.1.ordinary.symm.trans hunion) (by decide)
    · rw [Resolver.total_of_class hunion, ← Resolver.types_totalParts]
      exact (totalParts_said h hc hunion).types_eq_nil_iff_bare hkind hunion
  exact ⟨hexact, fun hnot hnil => hnot ((hexact.1 hnil).1.below_union hkind)⟩

/-- `Measure` and `Unit` are below each other, and `Unit` is below `DataType`; it is superseded by
    `Measure`. `Scale` is below `DataType` too, and below `Thing`, which has a property. -/
def measuresStatements : List Statement :=
  let term := Edition.https.term
  [{ subject := term "Thing", predicate := rdfType, object := .entity rdfsClass },
   { subject := term "Measure", predicate := rdfsSubClassOf, object := .entity (term "Unit") },
   { subject := term "Unit", predicate := rdfsSubClassOf, object := .entity (term "Measure") },
   { subject := term "Unit", predicate := rdfsSubClassOf, object := .entity (term "DataType") },
   { subject := term "Unit", predicate := term "supersededBy",
     object := .entity (term "Measure") },
   { subject := term "Scale", predicate := rdfsSubClassOf, object := .entity (term "DataType") },
   { subject := term "Scale", predicate := rdfsSubClassOf, object := .entity (term "Thing") },
   { subject := term "name", predicate := rdfType, object := .entity rdfProperty },
   { subject := term "name", predicate := term "domainIncludes",
     object := .entity (term "Thing") }]

/-- With `Unit` hidden, nothing is left for `Measure`. `Scale` has a leaf, and `Thing` is not below
    the union. -/
theorem bottom_measuresStatements :
    ∃ r, compile {} measuresStatements = .ok r ∧
      (∃ D ∈ r.declarations, D.iri = Edition.https.term "Measure" ∧ D.total = [] ∧
        D.Bare {} measuresStatements ∧ r.inherited D.iri = []) ∧
      (∃ D ∈ r.declarations, D.iri = Edition.https.term "Scale" ∧
        D.total = [.named "ScaleLeaf"] ∧ ¬ (D.Bare {} measuresStatements ∧ r.inherited D.iri = [])) ∧
      ∃ D ∈ r.declarations, D.iri = Edition.https.term "Thing" ∧ D.total ≠ [] := by
  have hok : (compile {} measuresStatements).isOk = true := by decide +kernel
  obtain ⟨r, hr⟩ := isOk_iff.1 hok
  obtain ⟨hgraph, hdeclarations, _⟩ := compiled_of_compile hr
  rw [hgraph] at hdeclarations
  have hmeasure : ∃ D ∈ r.declarations, D.iri = Edition.https.term "Measure" ∧ D.total = [] := by
    rw [hdeclarations]
    decide +kernel
  have hscale : ∃ D ∈ r.declarations, D.iri = Edition.https.term "Scale" ∧
      D.total = [.named "ScaleLeaf"] := by
    rw [hdeclarations]
    decide +kernel
  have hthing : ∃ D ∈ r.declarations, D.iri = Edition.https.term "Thing" := by
    rw [hdeclarations]
    decide +kernel
  refine ⟨r, hr, ?_, ?_, ?_⟩
  · obtain ⟨D, hD, hiri, htotal⟩ := hmeasure
    exact ⟨D, hD, hiri, htotal, (bottom_of_compile hr hD).1.1 htotal⟩
  · obtain ⟨D, hD, hiri, htotal⟩ := hscale
    have hexact := (bottom_of_compile hr hD).1
    rw [htotal] at hexact
    exact ⟨D, hD, hiri, htotal, fun hbare => List.cons_ne_nil _ _ (hexact.2 hbare)⟩
  · obtain ⟨D, hD, hiri⟩ := hthing
    refine ⟨D, hD, hiri, (bottom_of_compile hr hD).2 fun hway => ?_⟩
    -- `Thing` is said to be below nothing
    obtain ⟨b, hb, _⟩ := Relation.TransGen.head'_iff.1 hway
    rw [hiri] at hb
    obtain ⟨s, hs, hsubject, hkind, _⟩ := hb
    have hnone : ∀ s ∈ measuresStatements, s.subject = Edition.https.term "Thing" →
        s.kind ≠ .subClassOf := by decide +kernel
    exact hnone s hs hsubject hkind

end Ontotype

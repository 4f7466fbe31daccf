import Ontotype.Proofs.Declaration.References

set_option autoImplicit false

/-! # What is inherited

An instance of a class has the properties of the class and of all classes above it. In the
declarations it gets them along two kinds of links, from its leaf to the bases that the leaf
extends, and from a base to those that it stands on. A base that is left out breaks no such way,
as its class passes on all that it inherits itself. -/

namespace Ontotype

open Vocabulary

/-- The bases that are reached from a leaf: those that it extends, and those that a base that is
    reached stands on. -/
inductive Reaches (ds : List Declaration) (leaf : Leaf) : Base → Prop
  | extended {d : Declaration} {b : Base} (declared : d ∈ ds) (base : d.base = some b)
      (name : b.name ∈ leaf.bases) : Reaches ds leaf b
  | inherited {b b' : Base} {d : Declaration} (above : Reaches ds leaf b) (declared : d ∈ ds)
      (base : d.base = some b') (name : b'.name ∈ b.heritage.names) : Reaches ds leaf b'

/-! ## Ways through a layout -/

namespace Layout.Arises

variable {g : Graph} {l : Layout} {c d : ClassId} {s : Shape} {n : String}

/-- Where no class is above itself, each class passes on a way to the bases of all classes above
    it. -/
theorem way_to_base (h : Arises g l) (hacyclic : g.Acyclic) (hg : g.InRange)
    (hall : ∀ c ∈ g.ids, l.settled c = true) (hd : d ∈ g.ids) (hdc : g.Above d c)
    (hc : l.lookup c = some s) (hn : s.base? = some n) :
    ∃ m ∈ l.references d, Relation.ReflTransGen l.StandsOn m n := by
  -- the way is built downwards, from the class that has the base
  induction hdc using Relation.ReflTransGen.head_induction_on with
  | refl =>
      refine ⟨n, ?_, Relation.ReflTransGen.refl⟩
      rw [references_of_lookup hc, Shape.references, Shape.eq_baseName hn]
      rw [Shape.base?] at hn
      split
      · next homits => exact absurd hn (by simp [homits])
      · exact List.mem_singleton_self _
  | @head x y hxy _ ih =>
      obtain ⟨hx, hy⟩ := hg.mem_ids_of_below hxy
      obtain ⟨m, hm, hway⟩ := ih hy
      obtain ⟨t, ht⟩ := settled_iff.1 (hall x hx)
      have hinherited : m ∈ t.inherited :=
        (h.references_subset_inherited ht hxy (hacyclic.not_above_of_below hxy)).2 hm
      rw [references_of_lookup ht, Shape.references]
      split
      · -- the class has no base, and passes the way on as it is
        exact ⟨m, hinherited, hway⟩
      · next hbase =>
          have hstands : l.StandsOn t.baseName m := ⟨x, t, ht, if_neg hbase, hinherited⟩
          exact ⟨t.baseName, List.mem_singleton_self _, hway.head hstands⟩

/-- The base with a name is that of one class only. -/
theorem eq_of_base?_eq (h : Arises g l) (hid : g.DistinctIdentifiers) {t : Shape}
    (hc : l.lookup c = some s) (hd : l.lookup d = some t) (hs : s.base? = some n)
    (ht : t.base? = some n) : c = d := by
  obtain ⟨hcids, hcident, _⟩ := h.shape_of_class hc
  obtain ⟨hdids, hdident, _⟩ := h.shape_of_class hd
  have hident : s.ident = t.ident :=
    Shape.baseName_injective ((Shape.eq_baseName hs).symm.trans (Shape.eq_baseName ht))
  exact hid.eq_of_identifier_eq hcids hdids (hcident.symm.trans (hident.trans hdident))

end Layout.Arises

/-- A class that passes anything on has a leaf. -/
theorem Shape.leaf?_of_references {s : Shape} (h : s.references ≠ []) :
    ∃ name, s.leaf? = some name := by
  rw [references] at h
  refine ⟨_, if_pos ?_⟩
  split at h
  · simp [h]
  · next hbase =>
      rw [omitsBase] at hbase
      cases hnode : s.isNodeType with
      | true => rfl
      | false => exact absurd (by simp [hnode]) hbase

/-! ## Ways through declarations -/

section

variable {g : Graph} {context : Context} {includeDeprecated : Bool} {c d : ClassId} {leaf : Leaf}
  {m n : String} {ds : List Declaration}

/-- A way through the layout is one through the declarations. -/
theorem reaches_of_way (hg : g.InRange)
    (hds : ∀ c ∈ g.ids, (Resolver.ofGraph g context includeDeprecated).declaration c ∈ ds)
    (hway : Relation.ReflTransGen g.layout.StandsOn m n) (hm : m ∈ leaf.bases) {s : Shape}
    {b : Base} (hc : g.layout.lookup c = some s) (hb : ((Resolver.ofGraph g context
      includeDeprecated).declaration c).base = some b) (hn : b.name = n) :
    Reaches ds leaf b := by
  have hids : ∀ {c s}, g.layout.lookup c = some s → c ∈ g.ids :=
    fun hc => ((layout_arises hg).1.shape_of_class hc).1
  induction hway generalizing c s b with
  | refl => exact .extended (hds c (hids hc)) hb (hn ▸ hm)
  | tail _ hstands ih =>
      obtain ⟨c', s', hc', hbase', hn'⟩ := hstands
      obtain ⟨b', hb', hname'⟩ :=
        Resolver.base_of_lookup context includeDeprecated hg hc' hbase'
      obtain ⟨t, ht, _, hnames, _⟩ := Resolver.lookup_of_base hg (hids hc') hb'
      rw [hc'] at ht
      refine .inherited (ih hc' hb' hname') (hds c (hids hc)) hb ?_
      rw [hnames, hn, ← Option.some.inj ht]
      exact hn'

/-- Every base that is reached is that of a class above. -/
theorem above_of_reaches (hg : g.InRange) (hid : g.DistinctIdentifiers)
    (hds : ∀ D ∈ ds, ∃ c ∈ g.ids, (Resolver.ofGraph g context includeDeprecated).declaration c = D)
    (hbases : leaf.bases = g.layout.references d) {b : Base} (h : Reaches ds leaf b) :
    ∃ c ∈ g.ids, g.Above d c ∧
      ((Resolver.ofGraph g context includeDeprecated).declaration c).base = some b := by
  have harises := (layout_arises hg).1
  -- a base that is passed on is reached, wherever it is declared
  have hpassed : ∀ {D p b}, D ∈ ds → D.base = some b → b.name ∈ g.layout.references p →
      ∃ c ∈ g.ids, g.Above p c ∧
        ((Resolver.ofGraph g context includeDeprecated).declaration c).base = some b := by
    intro D p b hD hb hname
    obtain ⟨c, hc, rfl⟩ := hds D hD
    obtain ⟨s, hs, hsbase, _⟩ := Resolver.lookup_of_base hg hc hb
    obtain ⟨a, t, ha, ht, htbase⟩ := harises.base_of_passed_on hname
    obtain rfl := harises.eq_of_base?_eq hid hs ht hsbase htbase
    exact ⟨c, hc, ha, hb⟩
  induction h with
  | extended hD hb hname => exact hpassed hD hb (hbases ▸ hname)
  | inherited _ hD hb hname ih =>
      obtain ⟨c, hc, hdc, hbc⟩ := ih
      obtain ⟨s, hs, _, hnames, _⟩ := Resolver.lookup_of_base hg hc hbc
      obtain ⟨p, hp, hmem⟩ := harises.passed_on_of_inherited hs (hnames ▸ hname)
      obtain ⟨a, ha, hpa, hba⟩ := hpassed hD hb hmem
      exact ⟨a, ha, (hdc.tail hp).trans hpa, hba⟩

/-- A class other than the union is declared with a leaf if it passes anything on. -/
theorem Resolver.exists_leaf {r : Resolver} (hkind : (r.declaration d).kind ≠ .dataTypeUnion)
    (h : (r.layout.shape d).references ≠ []) : ∃ leaf, (r.declaration d).leaf = some leaf := by
  obtain ⟨name, hname⟩ := Shape.leaf?_of_references h
  have hunion : ¬ r.graph.kind d = .dataTypeUnion := hkind
  rw [declaration, leaf?, hname]
  exact ⟨_, if_neg (by simpa using hunion)⟩

/-- The members of a base include every property that its class has. -/
theorem Resolver.mem_members {p : PropertyId} (h : g.Bound c p) :
    ∃ m ∈ (Resolver.ofGraph g context true).members c, m.iri = (g.property p).iri := by
  obtain ⟨b, hb, howner, rfl⟩ := h
  refine ⟨(Resolver.ofGraph g context true).member b, ?_, rfl⟩
  rw [members, mem_sortWith]
  refine List.mem_map_of_mem (List.mem_filter.2 ⟨?_, by rw [visibleProperty]; rfl⟩)
  exact List.mem_filter.2 ⟨hb, decide_eq_true howner⟩

end

/-- The declaration `D` of the class `d` inherits what it should: from its leaf are reached, with
    all their properties, the bases of the ordinary classes above `d` that have properties, and no
    bases other than those of classes above `d`. -/
structure Compiled.Inherits (r : Compiled) (D : Declaration) (d : ClassId) : Prop where
  complete : ∀ c, r.graph.Above d c → r.graph.kind c = .ordinary → r.graph.bindingsOf c ≠ [] →
    ∃ leaf, D.leaf = some leaf ∧ ∃ C ∈ r.declarations, C.iri = r.graph.iri c ∧
      ∃ b, C.base = some b ∧ Reaches r.declarations leaf b ∧
        ∀ p, r.graph.Bound c p → ∃ m ∈ b.members, m.iri = (r.graph.property p).iri
  sound : ∀ leaf, D.leaf = some leaf → ∀ b, Reaches r.declarations leaf b →
    ∃ c, r.graph.Above d c ∧ ∃ C ∈ r.declarations, C.iri = r.graph.iri c ∧ C.base = some b

/-- **Inheritance is complete and sound**, for every declaration apart from that of the union, as
    long as no class is above itself and no two classes share an identifier. -/
theorem inherits_of_compile {o : Options} {ss : List Statement} {r : Compiled}
    (ho : o.includeDeprecated = true) (h : compile o ss = .ok r) (hacyclic : r.graph.Acyclic)
    (hid : r.graph.DistinctIdentifiers) {D : Declaration} (hD : D ∈ r.declarations)
    (hkind : D.kind ≠ .dataTypeUnion) : ∃ d, r.graph.find? D.iri = some d ∧ r.Inherits D d := by
  have hp := portrays_of_compile h
  have hg := hp.inRange
  obtain ⟨harises, hsettled⟩ := layout_arises hg
  have hdeclared := fun D => mem_declarations_of_includeDeprecated h ho (d := D)
  obtain ⟨d, hd, rfl⟩ := (hdeclared D).1 hD
  obtain ⟨t, ht⟩ := Layout.settled_iff.1 (hsettled d hd)
  have hshape : (Resolver.ofGraph r.graph o.context true).layout.shape d = t :=
    Layout.shape_of_lookup ht
  refine ⟨d, Graph.find?_iri hp.nodup_classIris hd, ?_⟩
  constructor
  case complete =>
    intro c hdc hordinary hbound
    -- an ordinary class with properties is a node type, and has its base
    have hc := hg.mem_ids_of_above hd hdc
    obtain ⟨s, hs⟩ := Layout.settled_iff.1 (hsettled c hc)
    obtain ⟨_, _, hnode, hproperties⟩ := harises.shape_of_class hs
    have hnodeType := Graph.isNodeType_of_bindings hg hc hordinary hbound
    have hbase : s.base? = some s.baseName := by
      refine if_neg ?_
      simp [Shape.omitsBase, hnode, hnodeType, hproperties, hbound]
    obtain ⟨m, hm, hway⟩ := harises.way_to_base hacyclic hg hsettled hd hdc hs hbase
    rw [Layout.references_of_lookup ht, ← hshape] at hm
    obtain ⟨leaf, hleaf⟩ := Resolver.exists_leaf hkind (List.ne_nil_of_mem hm)
    rw [← (Resolver.leaf_spec (Resolver.leaf_of_declaration hleaf).2).2] at hm
    obtain ⟨b, hb, hname⟩ := Resolver.base_of_lookup o.context true hg hs hbase
    refine ⟨leaf, hleaf, _, (hdeclared _).2 ⟨c, hc, rfl⟩, rfl, b, hb, ?_, fun p hbp => ?_⟩
    · exact reaches_of_way hg (fun c hc => (hdeclared _).2 ⟨c, hc, rfl⟩) hway hm hs hb hname
    · obtain ⟨_, _, _, _, hmembers⟩ := Resolver.lookup_of_base hg hc hb
      rw [hmembers]
      exact Resolver.mem_members hbp
  case sound =>
    intro leaf hleaf b hb
    obtain ⟨hname, hbases⟩ := Resolver.leaf_spec (Resolver.leaf_of_declaration hleaf).2
    rw [hshape, ← Layout.references_of_lookup ht] at hbases
    obtain ⟨c, hc, hdc, hbc⟩ := above_of_reaches hg hid (fun D hD => (hdeclared D).1 hD) hbases hb
    exact ⟨c, hdc, _, (hdeclared _).2 ⟨c, hc, rfl⟩, rfl, hbc⟩

/-- An ontology with a diamond, and a class in it without properties: `Novel` is below `Book` and
    `Story`, both are below `Work`, and `Work` and `Book` have properties. -/
def diamondStatements : List Statement :=
  let term := Edition.https.term
  [{ subject := term "Work", predicate := rdfType, object := .entity rdfsClass },
   { subject := term "Book", predicate := rdfsSubClassOf, object := .entity (term "Work") },
   { subject := term "Story", predicate := rdfsSubClassOf, object := .entity (term "Work") },
   { subject := term "Novel", predicate := rdfsSubClassOf, object := .entity (term "Book") },
   { subject := term "Novel", predicate := rdfsSubClassOf, object := .entity (term "Story") },
   { subject := term "title", predicate := rdfType, object := .entity rdfProperty },
   { subject := term "title", predicate := term "domainIncludes", object := .entity (term "Work") },
   { subject := term "pages", predicate := rdfType, object := .entity rdfProperty },
   { subject := term "pages", predicate := term "domainIncludes", object := .entity (term "Book") }]

theorem inherits_diamondStatements :
    ∃ r, compile { includeDeprecated := true } diamondStatements = .ok r ∧
      ∃ D ∈ r.declarations, D.ident = "Novel" ∧
        ∃ d, r.graph.find? D.iri = some d ∧ r.Inherits D d := by
  have hok : (compile { includeDeprecated := true } diamondStatements).isOk = true := by
    decide +kernel
  obtain ⟨r, hr⟩ := isOk_iff.1 hok
  have hgraph := (compiled_of_compile hr).1
  have hacyclic : r.graph.Acyclic := by
    refine Graph.acyclic_of_decreasing ?_
    rw [hgraph]
    decide +kernel
  have hid : r.graph.DistinctIdentifiers := by
    rw [Graph.DistinctIdentifiers, hgraph]
    decide +kernel
  -- the builtin classes and their union come first, then the classes in order of appearance
  have hnovel : 10 ∈ r.graph.ids ∧ r.graph.identifier 10 = "Novel" ∧
      r.graph.kind 10 = .ordinary := by
    rw [hgraph]
    decide +kernel
  have hD := (mem_declarations_of_includeDeprecated hr rfl).2 ⟨10, hnovel.1, rfl⟩
  have hkind : ((Resolver.ofGraph r.graph .standard true).declaration 10).kind ≠
      .dataTypeUnion := by
    show r.graph.kind 10 ≠ .dataTypeUnion
    rw [hnovel.2.2]
    decide
  exact ⟨r, hr, _, hD, hnovel.2.1, inherits_of_compile rfl hr hacyclic hid hD hkind⟩

end Ontotype

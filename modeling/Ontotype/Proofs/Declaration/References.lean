import Ontotype.Proofs.Compile
import Ontotype.Proofs.Declaration.Heritage
import Ontotype.Proofs.Rdf.Vocabulary

set_option autoImplicit false

/-! # Every name is declared

A name that a declaration refers to is one of three: the identifier of a class, the name of its own
leaf, or the name of a base. As long as deprecated classes are included, all classes are declared,
and what remains to be seen is that the layout gives each inherited name to a class that has a base
in the end (`Layout.Arises.base_of_passed_on`). -/

namespace Ontotype

open Vocabulary

/-! ## Parts of a declaration -/

theorem Shape.isNodeType_of_base? {s : Shape} {n : String} (h : s.base? = some n) :
    s.isNodeType = true := by
  rw [Shape.base?] at h
  split at h
  · exact absurd h (by simp)
  · next homits =>
      rw [Shape.omitsBase] at homits
      cases hnode : s.isNodeType with
      | true => rfl
      | false => exact absurd (by simp [hnode]) homits

/-- The builtin classes are other names of primitive types, and no class is of anything else. -/
theorem Portrays.aliases_primitive {edition : Edition} {ss : List Statement} {g : Graph}
    (h : Portrays edition ss g) :
    ∀ a ∈ g.ids, ∀ t ∈ (g.entry a).aliases, ∃ p, t = .primitive p := by
  intro a ha t ht
  rw [h.aliases a ha] at ht
  exact aliases_declaredEntry ht

namespace Resolver

variable {r : Resolver} {g : Graph} {context : Context} {includeDeprecated : Bool} {c : ClassId}
  {n : String}

theorem leaf_of_declaration {leaf : Leaf} (h : (r.declaration c).leaf = some leaf) :
    r.graph.kind c ≠ .dataTypeUnion ∧ r.leaf? c = some leaf := by
  rw [declaration] at h
  split at h
  · exact absurd h (by simp)
  · next hkind => exact ⟨by simpa using hkind, h⟩

theorem leaf_of_class (h : r.graph.kind c ≠ .dataTypeUnion) :
    (r.declaration c).leaf = r.leaf? c := by
  rw [declaration]
  exact if_neg h

theorem total_of_class (h : r.graph.kind c ≠ .dataTypeUnion) :
    (r.declaration c).total = r.totalOfClass c := by
  rw [declaration]
  exact if_neg h

theorem total_of_union (h : r.graph.kind c = .dataTypeUnion) :
    (r.declaration c).total = r.totalOfUnion c := by
  rw [declaration]
  exact if_pos h

/-- A leaf extends the bases that its class passes on. -/
theorem leaf_spec {leaf : Leaf} (h : r.leaf? c = some leaf) :
    (r.layout.shape c).leaf? = some leaf.name ∧
      leaf.bases = (r.layout.shape c).references := by
  rw [leaf?, Option.map_eq_some_iff] at h
  obtain ⟨name, hname, rfl⟩ := h
  refine ⟨hname, ?_⟩
  rw [Shape.references, base?, Shape.base?]
  cases (r.layout.shape c).omitsBase <;> rfl

theorem references_ne_nil {s : Shape} {name : String} (h : s.leaf? = some name) :
    s.references ≠ [] := by
  rw [Shape.leaf?] at h
  rw [Shape.references]
  split
  · next homits =>
      intro hnil
      rw [Shape.omitsBase, hnil] at homits
      rw [hnil] at h
      cases hnode : s.isNodeType with
      | true => exact absurd homits (by simp [hnode])
      | false => exact absurd h (by simp [hnode])
  · exact List.cons_ne_nil _ _

theorem heritage_eq_parents {b : Base} {names : List String} (h : r.base? c = some b)
    (hnames : b.heritage = .parents names) :
    names = (r.layout.shape c).inherited ∧ names ≠ [] := by
  rw [base?, Option.map_eq_some_iff] at h
  obtain ⟨name, _, rfl⟩ := h
  dsimp only at hnames
  split at hnames
  · exact absurd hnames (by simp)
  · next hne => exact ⟨(Heritage.parents.inj hnames).symm, Heritage.parents.inj hnames ▸ hne⟩

/-- A class that has a base in the layout is declared with it. -/
theorem base_of_lookup (context : Context) (includeDeprecated : Bool) (hg : g.InRange) {s : Shape}
    (hc : g.layout.lookup c = some s) (hbase : s.base? = some n) :
    ∃ b, ((ofGraph g context includeDeprecated).declaration c).base = some b ∧ b.name = n := by
  obtain ⟨hids, _, hnode, _⟩ := (layout_arises hg).1.shape_of_class hc
  have hordinary : g.kind c = .ordinary :=
    Graph.kind_of_isNodeType hg hids (hnode.symm.trans (Shape.isNodeType_of_base? hbase))
  have hshape : (ofGraph g context includeDeprecated).layout.shape c = s :=
    Layout.shape_of_lookup hc
  rw [declaration, base?, hshape, hbase]
  refine ⟨_, if_neg ?_, rfl⟩
  show ¬ g.kind c = .dataTypeUnion
  rw [hordinary]
  decide

/-- What is declared as the base of a class is its base in the layout. -/
theorem lookup_of_base (hg : g.InRange) (hc : c ∈ g.ids) {b : Base}
    (hb : ((ofGraph g context includeDeprecated).declaration c).base = some b) :
    ∃ s, g.layout.lookup c = some s ∧ s.base? = some b.name ∧ b.heritage.names = s.inherited ∧
      b.members = (ofGraph g context includeDeprecated).members c := by
  obtain ⟨s, hs⟩ := Layout.settled_iff.1 ((layout_arises hg).2 c hc)
  obtain ⟨hname, hnames, hmembers⟩ := base_spec (base_of_declaration hb)
  have hshape : (ofGraph g context includeDeprecated).layout.shape c = s :=
    Layout.shape_of_lookup hs
  rw [hshape] at hname hnames
  exact ⟨s, hs, hname, hnames, hmembers⟩

/-- A base is named for its class. -/
theorem name_of_base (hg : g.InRange) (hc : c ∈ g.ids) {b : Base}
    (hb : ((ofGraph g context includeDeprecated).declaration c).base = some b) :
    b.name = g.identifier c ++ "Base" := by
  obtain ⟨s, hs, hname, _⟩ := lookup_of_base hg hc hb
  rw [Shape.eq_baseName hname, Shape.baseName, ((layout_arises hg).1.shape_of_class hs).2.1]

/-- A leaf is named for its class. -/
theorem name_of_leaf (hg : g.InRange) (hc : c ∈ g.ids) {l : Leaf}
    (hl : ((ofGraph g context includeDeprecated).declaration c).leaf = some l) :
    l.name = g.identifier c ++ "Leaf" := by
  obtain ⟨s, hs⟩ := Layout.settled_iff.1 ((layout_arises hg).2 c hc)
  have hname := (leaf_spec (leaf_of_declaration hl).2).1
  rw [show (ofGraph g context includeDeprecated).layout.shape c = s from Layout.shape_of_lookup hs,
    Shape.leaf?] at hname
  split at hname
  · rw [← Option.some.inj hname, ((layout_arises hg).1.shape_of_class hs).2.1]
  · exact absurd hname (by simp)

/-! ## Names of classes -/

theorem named_mem_identifiers {cs : List ClassId} :
    .named n ∈ (sortedSet (cs.map g.identifier)).map TypeRef.named ↔
      ∃ d ∈ cs, g.identifier d = n := by
  rw [List.mem_map_of_injective fun _ _ => TypeRef.named.inj, mem_sortedSet, List.mem_map]

/-- The texts and the leaf, with which the total type of a class starts, name the leaf. -/
theorem exists_leaf_of_named_mem {texts : List String} {leaf? : Option Leaf}
    (hn : .named n ∈ texts.map TypeRef.literal ++ leaf?.toList.map fun leaf => .named leaf.name) :
    ∃ leaf, leaf? = some leaf ∧ leaf.name = n := by
  rcases List.mem_append.1 hn with hn | hn
  · obtain ⟨_, _, h⟩ := List.mem_map.1 hn
    exact absurd h (by simp)
  · obtain ⟨leaf, hleaf, h⟩ := List.mem_map.1 hn
    exact ⟨leaf, Option.mem_toList.1 hleaf, TypeRef.named.inj h⟩

/-- The union names its members. -/
theorem named_mem_total_of_union (hkind : r.graph.kind c = .dataTypeUnion)
    (hn : .named n ∈ (r.declaration c).total) :
    ∃ d ∈ r.graph.unionMembers c, r.graph.identifier d = n := by
  rw [total_of_union hkind] at hn
  exact named_mem_identifiers.1 hn

/-- The total type of a class names its leaf and the classes below that are included. -/
theorem named_mem_total_of_class (hg : r.graph.InRange) (hc : c ∈ r.graph.ids)
    (haliases : ∀ a ∈ r.graph.ids, ∀ t ∈ (r.graph.entry a).aliases, ∃ p, t = .primitive p)
    (hkind : r.graph.kind c ≠ .dataTypeUnion) (hn : .named n ∈ (r.declaration c).total) :
    (∃ leaf, (r.declaration c).leaf = some leaf ∧ leaf.name = n) ∨
      ∃ d ∈ r.graph.children c, r.visible d = true ∧ r.graph.identifier d = n := by
  rw [total_of_class hkind, totalOfClass, List.mem_append, List.mem_append] at hn
  rw [leaf_of_class hkind]
  rcases hn with (hn | hn) | hn
  · exact Or.inl (exists_leaf_of_named_mem hn)
  · obtain ⟨d, hd, hname⟩ := named_mem_identifiers.1 hn
    obtain ⟨hchild, hvisible⟩ := List.mem_filter.1 hd
    exact Or.inr ⟨d, hchild, hvisible, hname⟩
  · exact absurd hn (Graph.named_notMem_aliases hg hc haliases n)

/-- Apart from the leaf, a total type names nothing but classes. -/
theorem named_mem_total (hg : r.graph.InRange) (hc : c ∈ r.graph.ids)
    (haliases : ∀ a ∈ r.graph.ids, ∀ t ∈ (r.graph.entry a).aliases, ∃ p, t = .primitive p)
    (hn : .named n ∈ (r.declaration c).total) :
    (∃ d ∈ r.graph.ids, r.graph.identifier d = n) ∨
      ∃ leaf, (r.declaration c).leaf = some leaf ∧ leaf.name = n := by
  by_cases hkind : r.graph.kind c = .dataTypeUnion
  · obtain ⟨d, hd, hname⟩ := named_mem_total_of_union hkind hn
    exact Or.inl ⟨d, (hg.unionMember (c, d) (Link.mem_targets.1 hd)).2, hname⟩
  · rcases named_mem_total_of_class hg hc haliases hkind hn with hleaf | ⟨d, hd, _, hname⟩
    · exact Or.inr hleaf
    · exact Or.inl ⟨d, (hg.superclass (d, c) (Link.mem_sources.1 hd)).1, hname⟩

/-- The names in the range of a member are those of the classes that its property ranges over. -/
theorem ranges_of_named_mem (hg : r.graph.InRange) {m : Member} (hm : m ∈ r.members c)
    (hn : .named n ∈ m.range) : ∃ p < r.graph.properties.length, m.iri = (r.graph.property p).iri ∧
      ∃ d ∈ (r.graph.property p).ranges, r.graph.identifier d = n := by
  rw [members, mem_sortWith] at hm
  obtain ⟨b, hb, rfl⟩ := List.mem_map.1 hm
  have hlt := (hg.binding b (List.mem_of_mem_filter (List.mem_of_mem_filter hb))).2
  refine ⟨b.property, hlt, rfl, ?_⟩
  rw [member, Graph.rangeType, List.mem_append] at hn
  rcases hn with hn | hn
  · exact named_mem_identifiers.1 hn
  · split at hn
    · exact absurd (List.mem_singleton.1 hn) (by simp)
    · exact absurd hn List.not_mem_nil

theorem named_mem_range (hg : r.graph.InRange) {m : Member} (hm : m ∈ r.members c)
    (hn : .named n ∈ m.range) : ∃ d ∈ r.graph.ids, r.graph.identifier d = n := by
  obtain ⟨p, hlt, _, d, hd, hdn⟩ := ranges_of_named_mem hg hm hn
  exact ⟨d, hg.range _ (Graph.property_mem hlt) d hd, hdn⟩

end Resolver

/-! ## Closed ontologies -/

/-- Every name that the declarations and helpers of an ontology refer to is declared, and no list
    of bases to stand on is empty. -/
structure Compiled.Closed (r : Compiled) : Prop where
  total : ∀ d ∈ r.declarations, ∀ n, .named n ∈ d.total →
    (∃ d' ∈ r.declarations, d'.ident = n) ∨ ∃ leaf, d.leaf = some leaf ∧ leaf.name = n
  range : ∀ d ∈ r.declarations, ∀ b, d.base = some b → ∀ m ∈ b.members, ∀ n, .named n ∈ m.range →
    ∃ d' ∈ r.declarations, d'.ident = n
  heritage : ∀ d ∈ r.declarations, ∀ b, d.base = some b → ∀ n ∈ b.heritage.names,
    ∃ d' ∈ r.declarations, ∃ b', d'.base = some b' ∧ b'.name = n
  leafBases : ∀ d ∈ r.declarations, ∀ leaf, d.leaf = some leaf → ∀ n ∈ leaf.bases,
    ∃ d' ∈ r.declarations, ∃ b', d'.base = some b' ∧ b'.name = n
  root : ∀ n, r.preamble.root = some n → ∃ d ∈ r.declarations, d.ident = n
  role : r.preamble.hasRole = true → ∃ d ∈ r.declarations, d.ident = "Role"
  leafBases_ne_nil : ∀ d ∈ r.declarations, ∀ leaf, d.leaf = some leaf → leaf.bases ≠ []
  parents : ∀ d ∈ r.declarations, ∀ b, d.base = some b → ∀ names, b.heritage = .parents names →
    names ≠ [] ∧ names.Nodup

/-- **An ontology that includes its deprecated classes is closed**, whatever circles its
    superclasses run in. -/
theorem closed_of_compile {o : Options} {ss : List Statement} {r : Compiled}
    (ho : o.includeDeprecated = true) (h : compile o ss = .ok r) : r.Closed := by
  have hp := portrays_of_compile h
  have hg := hp.inRange
  obtain ⟨harises, hsettled⟩ := layout_arises hg
  have hdeclared := fun d => mem_declarations_of_includeDeprecated h ho (d := d)
  have hident : ∀ n, (∃ c ∈ r.graph.ids, r.graph.identifier c = n) →
      ∃ d ∈ r.declarations, d.ident = n := by
    rintro n ⟨c, hc, rfl⟩
    exact ⟨_, (hdeclared _).2 ⟨c, hc, rfl⟩, rfl⟩
  have hbase : ∀ n, r.graph.layout.HasBase n →
      ∃ d ∈ r.declarations, ∃ b, d.base = some b ∧ b.name = n := by
    rintro n ⟨c, s, hc, hn⟩
    have hids := (harises.shape_of_class hc).1
    exact ⟨_, (hdeclared _).2 ⟨c, hids, rfl⟩, Resolver.base_of_lookup _ _ hg hc hn⟩
  have hshape : ∀ c ∈ r.graph.ids, ∃ s, r.graph.layout.lookup c = some s ∧
      (Resolver.ofGraph r.graph o.context true).layout.shape c = s := by
    intro c hc
    obtain ⟨s, hs⟩ := Layout.settled_iff.1 (hsettled c hc)
    exact ⟨s, hs, Layout.shape_of_lookup hs⟩
  constructor
  case total =>
    intro d hd n hn
    obtain ⟨c, hc, rfl⟩ := (hdeclared d).1 hd
    exact (Resolver.named_mem_total hg hc hp.aliases_primitive hn).imp_left (hident n)
  case range =>
    intro d hd b hb m hm n hn
    obtain ⟨c, hc, rfl⟩ := (hdeclared d).1 hd
    rw [(Resolver.base_spec (Resolver.base_of_declaration hb)).2.2] at hm
    exact hident n (Resolver.named_mem_range hg hm hn)
  case heritage =>
    intro d hd b hb n hn
    obtain ⟨c, hc, rfl⟩ := (hdeclared d).1 hd
    obtain ⟨s, hs, _, hnames, _⟩ := Resolver.lookup_of_base hg hc hb
    exact hbase n (harises.hasBase_of_inherited hs (hnames ▸ hn))
  case leafBases =>
    intro d hd leaf hleaf n hn
    obtain ⟨c, hc, rfl⟩ := (hdeclared d).1 hd
    obtain ⟨s, hs, hshape⟩ := hshape c hc
    rw [(Resolver.leaf_spec (Resolver.leaf_of_declaration hleaf).2).2, hshape,
      ← Layout.references_of_lookup hs] at hn
    obtain ⟨a, t, _, ha, hbase'⟩ := harises.base_of_passed_on hn
    exact hbase n ⟨a, t, ha, hbase'⟩
  case root =>
    intro n hn
    rw [(compiled_of_compile h).2.2, Preamble.ofGraph, Option.map_eq_some_iff] at hn
    obtain ⟨c, hc, hn⟩ := hn
    exact hident n ⟨c, List.mem_of_find?_eq_some hc, hn⟩
  case role =>
    intro hrole
    rw [(compiled_of_compile h).2.2, Preamble.ofGraph] at hrole
    obtain ⟨c, hc, hschema⟩ := List.any_eq_true.1 hrole
    exact hident "Role" ⟨c, hc, Iri.identifier_of_isSchema (Or.inl rfl) hschema⟩
  case leafBases_ne_nil =>
    intro d hd leaf hleaf
    obtain ⟨c, hc, rfl⟩ := (hdeclared d).1 hd
    obtain ⟨hname, hbases⟩ := Resolver.leaf_spec (Resolver.leaf_of_declaration hleaf).2
    rw [hbases]
    exact Resolver.references_ne_nil hname
  case parents =>
    intro d hd b hb names hnames
    obtain ⟨c, hc, rfl⟩ := (hdeclared d).1 hd
    obtain ⟨s, hs, hshape⟩ := hshape c hc
    have hheritage := Resolver.heritage_eq_parents (Resolver.base_of_declaration hb) hnames
    rw [hshape] at hheritage
    obtain ⟨rfl, hne⟩ := hheritage
    refine ⟨hne, (harises.pairwise_inherited hs).imp fun {m n} hlt heq => ?_⟩
    exact String.lt_irrefl n (heq ▸ hlt)

/-- An ontology with a circle: `Agent` and `Group` are below each other, `Club` is below `Group`,
    and `size` is a property of `Group`. -/
def circlesStatements : List Statement :=
  let term := Edition.https.term
  [{ subject := term "Agent", predicate := rdfsSubClassOf, object := .entity (term "Group") },
   { subject := term "Group", predicate := rdfsSubClassOf, object := .entity (term "Agent") },
   { subject := term "Group", predicate := rdfType, object := .entity rdfsClass },
   { subject := term "Club", predicate := rdfsSubClassOf, object := .entity (term "Group") },
   { subject := term "size", predicate := rdfType, object := .entity rdfProperty },
   { subject := term "size", predicate := term "domainIncludes", object := .entity (term "Group") },
   { subject := term "size", predicate := term "rangeIncludes", object := .entity (term "Number") }]

theorem closed_circlesStatements :
    ∃ r, compile { includeDeprecated := true } circlesStatements = .ok r ∧ r.Closed := by
  have hok : (compile { includeDeprecated := true } circlesStatements).isOk = true := by
    decide +kernel
  obtain ⟨r, hr⟩ := isOk_iff.1 hok
  exact ⟨r, hr, closed_of_compile rfl hr⟩

end Ontotype

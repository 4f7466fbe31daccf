import Ontotype.Proofs.Assembly.Growth
import Ontotype.Proofs.Declaration.References

set_option autoImplicit false

/-! # A new class leaves the declarations of the others alone

When a graph grows by a class below `c`, every declaration from before is made from the same parts:
comments and names of the class itself, properties and what they range over, the layout, the
aliases, the values. Only what stands below `c` is more than before. -/

namespace Ontotype

open Vocabulary

variable {g : Graph} {e : ClassEntry} {c d : ClassId}

/-! ## One more child -/

/-- The identifiers of the classes below `c` that are included. -/
def Graph.includedChildren (g : Graph) (o : Options) (c : ClassId) : List String :=
  ((g.children c).filter (Resolver.ofGraph g o.context o.includeDeprecated).visible).map
    g.identifier

/-- The declaration `D'` is `D`, of a class below which there are classes with these names, with one
    more name among them. The names of the classes below stand in order behind the texts and the
    leaf, and before the aliases. -/
structure GainsChild (names : List String) (n : String) (D D' : Declaration) : Prop where
  fields : D' = { D with total := D'.total }
  total : ∃ before after,
    D.total = before ++ (sortedSet names).map .named ++ after ∧
      D'.total = before ++ (sortedSet (n :: names)).map .named ++ after ∧
      (∀ m, .named m ∈ before → ∃ leaf, D.leaf = some leaf ∧ leaf.name = m) ∧
      ∀ m, .named m ∉ after

namespace Resolver

/-! ## Resolving in the grown graph -/

variable {context : Context} {includeDeprecated : Bool}

theorem visible_size (hg : g.InRange) (context : Context) (includeDeprecated : Bool) :
    (ofGraph g context includeDeprecated).visible g.size = true := by
  have hsuccessors : g.isDeprecated g.size = false := by
    rw [Graph.isDeprecated, Graph.successors_size hg]
    rfl
  show (includeDeprecated || !g.isDeprecated g.size) = true
  rw [hsuccessors, Bool.not_false, Bool.or_true]

theorem commentOf_grow (hg : g.InRange) (hd : d ∈ g.ids) :
    (ofGraph (g.grow e c) context includeDeprecated).commentOf d =
      (ofGraph g context includeDeprecated).commentOf d := by
  have hnames : (g.successors d).map (fun s => context.scopedName ((g.grow e c).iri s)) =
      (g.successors d).map fun s => context.scopedName (g.iri s) := by
    refine List.map_congr_left fun s hs => ?_
    rw [Graph.iri_grow_of_mem e c (hg.successor _ (Link.mem_targets.1 hs)).2]
  show withNote ((g.grow e c).entry d).comment (if g.isDeprecated d then
    some (deprecationNote ((g.successors d).map fun s => context.scopedName ((g.grow e c).iri s)))
      else none) = _
  rw [hnames, Graph.entry_grow_of_mem e c hd]
  rfl

theorem members_grow (hg : g.InRange) (hc : c ∈ g.ids) (d : ClassId) :
    (ofGraph (g.grow e c) context includeDeprecated).members d =
      (ofGraph g context includeDeprecated).members d := by
  have hmember : (ofGraph (g.grow e c) context includeDeprecated).member =
      (ofGraph g context includeDeprecated).member := by
    funext b
    unfold member
    show Member.mk _ _ _ _ ((g.grow e c).rangeType b.property) = _
    rw [Graph.rangeType_grow hg hc e b.property]
    rfl
  unfold members
  rw [hmember]
  rfl

theorem totalOfUnion_grow (hg : g.InRange) :
    (ofGraph (g.grow e c) context includeDeprecated).totalOfUnion d =
      (ofGraph g context includeDeprecated).totalOfUnion d := by
  have hmembers : (g.unionMembers d).map (g.grow e c).identifier =
      (g.unionMembers d).map g.identifier := by
    refine List.map_congr_left fun m hm => ?_
    rw [Graph.identifier_grow_of_mem e c (hg.unionMember _ (Link.mem_targets.1 hm)).2]
  exact congrArg (fun names => (sortedSet names).map TypeRef.named) hmembers

/-- The children that there were keep their names. -/
theorem map_identifier_children (hg : g.InRange) (e : ClassEntry) (p : ClassId → Bool) :
    ((g.children d).filter p).map (g.grow e c).identifier =
      ((g.children d).filter p).map g.identifier := by
  refine List.map_congr_left fun a ha => ?_
  have hchild := Link.mem_sources.1 (List.mem_of_mem_filter ha)
  rw [Graph.identifier_grow_of_mem e c (hg.superclass _ hchild).1]

section

variable (hg : g.InRange) (hacyclic : g.Acyclic) (hc : c ∈ g.ids) (hd : d ∈ g.ids)

include hg hacyclic hc hd

theorem base?_grow : (ofGraph (g.grow e c) context includeDeprecated).base? d =
    (ofGraph g context includeDeprecated).base? d := by
  have hshape : (ofGraph (g.grow e c) context includeDeprecated).layout.shape d =
      (ofGraph g context includeDeprecated).layout.shape d :=
    Graph.shape_layout_grow hg hacyclic hc e hd
  unfold base?
  rw [members_grow hg hc, hshape]

theorem leaf?_grow : (ofGraph (g.grow e c) context includeDeprecated).leaf? d =
    (ofGraph g context includeDeprecated).leaf? d := by
  have hshape : (ofGraph (g.grow e c) context includeDeprecated).layout.shape d =
      (ofGraph g context includeDeprecated).layout.shape d :=
    Graph.shape_layout_grow hg hacyclic hc e hd
  unfold leaf?
  rw [base?_grow hg hacyclic hc hd, hshape]
  show Option.map (fun name => Leaf.mk _ _ (context.scopedName ((g.grow e c).iri d))) _ = _
  rw [Graph.iri_grow_of_mem e c hd]
  rfl

/-- All but the total type is as before. -/
theorem declaration_grow : (ofGraph (g.grow e c) context includeDeprecated).declaration d =
    { (ofGraph g context includeDeprecated).declaration d with
      total := ((ofGraph (g.grow e c) context includeDeprecated).declaration d).total } := by
  have hparents : ((g.grow e c).parents d).map (fun p => context.scopedName ((g.grow e c).iri p)) =
      (g.parents d).map fun p => context.scopedName (g.iri p) := by
    rw [Graph.parents_grow_of_mem e c hd]
    refine List.map_congr_left fun p hp => ?_
    rw [Graph.iri_grow_of_mem e c (hg.mem_ids_of_below hp).2]
  have hkind := Graph.kind_grow_of_mem e c hd
  refine (Declaration.mk.injEq ..).mpr ⟨?_, ?_, ?_, hkind, ?_, rfl, ?_, ?_, ?_, rfl, rfl⟩
  · exact Graph.iri_grow_of_mem e c hd
  · exact congrArg context.scopedName (Graph.iri_grow_of_mem e c hd)
  · exact Graph.identifier_grow_of_mem e c hd
  · exact commentOf_grow hg hd
  · exact congrArg (sortWith compare) hparents
  · show (if (g.grow e c).kind d = .dataTypeUnion then none else _) = if _ then _ else _
    rw [hkind, base?_grow hg hacyclic hc hd]
    rfl
  · show (if (g.grow e c).kind d = .dataTypeUnion then none else _) = if _ then _ else _
    rw [hkind, leaf?_grow hg hacyclic hc hd]
    rfl

theorem totalOfClass_grow : (ofGraph (g.grow e c) context includeDeprecated).totalOfClass d =
    (sortedSet ((g.valuesOf d).flatMap (ofGraph g context includeDeprecated).spellings)).map
        .literal
      ++ ((ofGraph g context includeDeprecated).leaf? d).toList.map (fun leaf => .named leaf.name)
      ++ (sortedSet ((((g.grow e c).children d).filter
          (ofGraph g context includeDeprecated).visible).map (g.grow e c).identifier)).map .named
      ++ g.aliases d := by
  unfold totalOfClass
  rw [leaf?_grow hg hacyclic hc hd]
  show _ ++ (g.grow e c).aliases d = _
  rw [Graph.aliases_grow hg hc hd]
  rfl

/-- A class other than `c` is declared as before. -/
theorem declaration_grow_of_ne (hdc : d ≠ c) :
    (ofGraph (g.grow e c) context includeDeprecated).declaration d =
      (ofGraph g context includeDeprecated).declaration d := by
  have htotal : ((ofGraph (g.grow e c) context includeDeprecated).declaration d).total =
      ((ofGraph g context includeDeprecated).declaration d).total := by
    have hkind := Graph.kind_grow_of_mem e c hd
    by_cases hunion : g.kind d = .dataTypeUnion
    · rw [total_of_union (r := ofGraph (g.grow e c) _ _) (hkind.trans hunion),
        total_of_union (r := ofGraph g _ _) hunion, totalOfUnion_grow hg]
    · rw [total_of_class (r := ofGraph (g.grow e c) _ _) fun h => hunion (hkind.symm.trans h),
        total_of_class (r := ofGraph g _ _) hunion, totalOfClass_grow hg hacyclic hc hd,
        Graph.children_grow_of_ne e hdc, map_identifier_children hg]
      rfl
  rw [declaration_grow hg hacyclic hc hd, htotal]

end

/-- The class `c` gains a child, and is declared as before otherwise. -/
theorem gainsChild_grow {o : Options} (hg : g.InRange) (hacyclic : g.Acyclic) (hc : c ∈ g.ids)
    (haliases : ∀ a ∈ g.ids, ∀ t ∈ (g.entry a).aliases, ∃ p, t = .primitive p)
    (hclass : g.kind c ≠ .dataTypeUnion) :
    GainsChild (g.includedChildren o c) e.iri.identifier
      ((ofGraph g o.context o.includeDeprecated).declaration c)
      ((ofGraph (g.grow e c) o.context o.includeDeprecated).declaration c) where
  fields := declaration_grow hg hacyclic hc hc
  total := by
      have hkind := Graph.kind_grow_of_mem e c hc
      have hnames : sortedSet ((((g.grow e c).children c).filter
          (ofGraph g o.context o.includeDeprecated).visible).map (g.grow e c).identifier) =
            sortedSet (e.iri.identifier :: g.includedChildren o c) := by
        refine sortedSet_congr fun n => ?_
        rw [Graph.children_grow_self hg e c, List.filter_append,
          List.filter_cons_of_pos (visible_size hg _ _), List.filter_nil, List.map_append,
          List.map_singleton, Graph.identifier_grow_size,
          map_identifier_children hg, Graph.includedChildren, List.mem_append,
          List.mem_singleton, List.mem_cons, or_comm]
      rw [total_of_class (r := ofGraph (g.grow e c) _ _) fun h => hclass (hkind.symm.trans h),
        total_of_class (r := ofGraph g _ _) hclass, totalOfClass_grow hg hacyclic hc hc, hnames,
        leaf_of_class (r := ofGraph g _ _) hclass]
      exact ⟨_, _, rfl, rfl, fun _ => exists_leaf_of_named_mem,
        Graph.named_notMem_aliases hg hc haliases⟩

end Resolver

/-! ## Compiling with a new class -/

/-- The declarations of a graph that has grown: those from before, in order, and one for the new
    class. -/
theorem declarationsOf_grow {o : Options} (hg : g.InRange) (hnodup : g.classIris.Nodup)
    (hacyclic : g.Acyclic) (hc : c ∈ g.ids)
    (haliases : ∀ a ∈ g.ids, ∀ t ∈ (g.entry a).aliases, ∃ p, t = .primitive p)
    (hclass : g.kind c ≠ .dataTypeUnion) :
    ∃ before d after, declarationsOf (g.grow e c) o = before ++ d :: after ∧ d.iri = e.iri ∧
      List.Forall₂ (fun D D' => D.iri ≠ g.iri c ∧ D' = D ∨
          D.iri = g.iri c ∧ GainsChild (g.includedChildren o c) e.iri.identifier D D')
        (declarationsOf g o) (before ++ after) := by
  obtain ⟨before, after, hsplit, hids⟩ := Graph.sortedIds_grow g e c
  let visible := (Resolver.ofGraph g o.context o.includeDeprecated).visible
  let declare := (Resolver.ofGraph (g.grow e c) o.context o.includeDeprecated).declaration
  refine ⟨(before.filter visible).map declare, declare g.size, (after.filter visible).map declare,
    ?_, ?_, ?_⟩
  · show ((g.grow e c).sortedIds.filter visible).map declare = _
    rw [hsplit, List.filter_append, List.filter_cons_of_pos (Resolver.visible_size hg _ _),
      List.map_append, List.map_cons]
  · show (g.grow e c).iri g.size = e.iri
    rw [Graph.iri, Graph.entry_grow_size]
  · unfold declarationsOf
    dsimp only
    rw [hids, ← List.map_append, ← List.filter_append, List.forall₂_map_left_iff,
      List.forall₂_map_right_iff]
    refine List.forall₂_same.2 fun d hd => ?_
    have hmem : d ∈ g.ids :=
      (sortedIds_perm g).mem_iff.1 (hids ▸ List.mem_of_mem_filter hd)
    by_cases hdc : d = c
    · subst hdc
      exact Or.inr ⟨rfl, Resolver.gainsChild_grow hg hacyclic hc haliases hclass⟩
    · refine Or.inl ⟨fun heq => hdc (Graph.eq_of_iri_eq hnodup hmem hc heq), ?_⟩
      exact Resolver.declaration_grow_of_ne hg hacyclic hc hmem hdc

/-- **A new class at the bottom is a local change.** Add two statements that make `D` a class below
    `C` to an ontology without cycles. It compiles, and its declarations are those from before, in
    the same order, and one for `D` among them. Each of those from before is left as it was, but
    that of `C`, whose total type names `D` in its place among the classes below `C`. -/
theorem compile_gains_leaf {o : Options} {ss : List Statement} {r : Compiled} {C D : Iri}
    (hr : compile o ss = .ok r) (hacyclic : r.graph.Acyclic) (h : Room ss r.graph D C c)
    (hclass : r.graph.kind c ≠ .dataTypeUnion)
    (hedition : editionOf (topicsOf (ss ++ newLeaf D C)) = editionOf (topicsOf ss)) :
    ∃ r' before d after, compile o (ss ++ newLeaf D C) = .ok r' ∧
      r'.declarations = before ++ d :: after ∧ d.iri = D ∧
      List.Forall₂ (fun E E' => E.iri ≠ C ∧ E' = E ∨
          E.iri = C ∧ GainsChild (r.graph.includedChildren o c) D.identifier E E')
        r.declarations (before ++ after) := by
  obtain ⟨r', hr', hgraph⟩ := compile_newLeaf hr h hedition
  have hp := portrays_of_compile hr
  obtain ⟨before, d, after, hsplit, hd, hall⟩ := declarationsOf_grow (o := o) (e := leafEntry D)
    hp.inRange hp.nodup_classIris hacyclic (Graph.mem_ids_of_find? h.superclass)
    hp.aliases_primitive hclass
  refine ⟨r', before, d, after, hr', ?_, hd, ?_⟩
  · rw [(compiled_of_compile hr').2.1, hgraph, hsplit]
  · rw [Graph.iri_of_find? h.superclass] at hall
    rw [(compiled_of_compile hr).2.1]
    exact hall

/-- An ontology of books, which may have a title. -/
def bookStatements : List Statement :=
  let term := Edition.https.term
  [{ subject := term "Work", predicate := rdfType, object := .entity rdfsClass },
   { subject := term "Book", predicate := rdfsSubClassOf, object := .entity (term "Work") },
   { subject := term "title", predicate := rdfType, object := .entity rdfProperty },
   { subject := term "title", predicate := term "domainIncludes", object := .entity (term "Work") }]

/-- A novel is a new kind of book. -/
theorem compile_gains_leaf_novel :
    ∃ r r' before d after, compile {} bookStatements = .ok r ∧
      compile {} (bookStatements ++ newLeaf (Edition.https.term "Novel")
        (Edition.https.term "Book")) = .ok r' ∧
      r'.declarations = before ++ d :: after ∧ d.iri = Edition.https.term "Novel" ∧
      List.Forall₂ (fun E E' => E.iri ≠ Edition.https.term "Book" ∧ E' = E ∨
          E.iri = Edition.https.term "Book" ∧ GainsChild [] "Novel" E E')
        r.declarations (before ++ after) := by
  have hok : (compile {} bookStatements).isOk = true := by decide +kernel
  obtain ⟨r, hr⟩ := isOk_iff.1 hok
  have hgraph := (compiled_of_compile hr).1
  have hacyclic : r.graph.Acyclic := by
    refine Graph.acyclic_of_decreasing ?_
    rw [hgraph]
    decide +kernel
  -- the builtin classes and their union come first, then the classes in order of appearance
  have hroom : Room bookStatements r.graph (Edition.https.term "Novel")
      (Edition.https.term "Book") 8 := by
    rw [hgraph]
    have hplace : DescribesClass bookStatements (Edition.https.term "Book") :=
      List.mem_map.2 ⟨topicAbout bookStatements (Edition.https.term "Book"),
        by decide +kernel, rfl⟩
    refine ⟨?_, ?_, ?_, ?_, .inl hplace⟩ <;> decide +kernel
  have hclass : r.graph.kind 8 ≠ .dataTypeUnion := by
    rw [hgraph]
    decide +kernel
  have hedition : editionOf (topicsOf (bookStatements ++ newLeaf (Edition.https.term "Novel")
      (Edition.https.term "Book"))) = editionOf (topicsOf bookStatements) := by
    decide +kernel
  have hbelow : r.graph.includedChildren {} 8 = [] := by
    rw [hgraph]
    decide +kernel
  have hname : (Edition.https.term "Novel").identifier = "Novel" := by decide +kernel
  obtain ⟨r', before, d, after, hr', hsplit, hd, hall⟩ :=
    compile_gains_leaf hr hacyclic hroom hclass hedition
  rw [hbelow, hname] at hall
  exact ⟨r, r', before, d, after, hr, hr', hsplit, hd, hall⟩

end Ontotype

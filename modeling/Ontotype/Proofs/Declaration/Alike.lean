import Ontotype.Proofs.Assembly.Alike
import Ontotype.Proofs.Compile
import Ontotype.Proofs.Declaration.Values
import Ontotype.Proofs.Rdf.Vocabulary

set_option autoImplicit false

/-! # Declarations of graphs that are alike

A declaration is made of names and sets of names, all of them brought into a fixed order. So it
depends on what a graph says of its classes, and not on how it numbers them: corresponding classes
of graphs that are alike have equal declarations (`Alike.declaration_eq`), and these are emitted in
the same order (`Alike.declarationsOf_eq`). -/

namespace Ontotype

open Vocabulary

variable {edition : Edition} {ss ss' : List Statement} {g h : Graph} {context : Context}
  {includeDeprecated : Bool} {c c' : ClassId} {p p' : PropertyId} {v v' : ValueId}

/-! ## Bindings of a class -/

theorem Portrays.eq_of_bindings (hp : Portrays edition ss g) {b b' : Binding}
    (hb : b ∈ g.bindingsOf c) (hb' : b' ∈ g.bindingsOf c)
    (hiri : (g.property b.property).iri = (g.property b'.property).iri) : b = b' := by
  rw [Graph.bindingsOf, List.mem_filter, decide_eq_true_iff] at hb hb'
  have hproperty : b.property = b'.property :=
    Graph.eq_of_property_iri_eq hp.nodup_propertyIris (hp.inRange.binding b hb.1).2
      (hp.inRange.binding b' hb'.1).2 hiri
  have hkey : b.key = b'.key := by rw [hp.key b hb.1, hp.key b' hb'.1, hiri]
  obtain ⟨owner, property, key⟩ := b
  obtain ⟨owner', property', key'⟩ := b'
  exact (Binding.mk.injEq ..).mpr ⟨hb.2.trans hb'.2.symm, hproperty, hkey⟩

/-- There is one union. -/
theorem Portrays.eq_of_union (hp : Portrays edition ss g) (c : ClassId) (hc : c ∈ g.ids)
    (d : ClassId) (hd : d ∈ g.ids) (hcu : g.kind c = .dataTypeUnion)
    (hdu : g.kind d = .dataTypeUnion) : c = d := by
  rw [hp.kind c hc] at hcu
  rw [hp.kind d hd] at hdu
  exact Graph.eq_of_iri_eq hp.nodup_classIris hc hd
    ((eq_of_kind_declaredEntry hcu).trans (eq_of_kind_declaredEntry hdu).symm)

/-- The properties of a class, by IRI, are all different. -/
theorem Portrays.nodup_bound (hp : Portrays edition ss g) (c : ClassId) :
    ((g.bindingsOf c).map fun b => (g.property b.property).iri).Nodup := by
  have hnodup : (g.bindingsOf c).Nodup := by
    refine List.Nodup.filter _ (hp.boundOnce.imp fun {b b'} hne heq => hne ?_)
    rw [heq]
    exact ⟨rfl, rfl⟩
  exact hnodup.map_on fun b hb b' hb' => hp.eq_of_bindings hb hb'

theorem deprecationNote_congr {xs ys : List String} (h : ∀ x, x ∈ xs ↔ x ∈ ys) :
    deprecationNote xs = deprecationNote ys :=
  congrArg (fun names => "@deprecated Use " ++ String.intercalate " or " names ++ " instead.")
    (sortedSet_congr h)

theorem map_filter_eq_of_forall₂ {α β γ : Type} {R : α → β → Prop} {p : α → Bool} {q : β → Bool}
    {f : α → γ} {f' : β → γ} (hpq : ∀ x y, R x y → p x = q y) (hff' : ∀ x y, R x y → f x = f' y)
    {xs : List α} {ys : List β} (hxs : List.Forall₂ R xs ys) :
    (xs.filter p).map f = (ys.filter q).map f' := by
  induction hxs with
  | nil => rfl
  | @cons x y xs ys hxy _ ih =>
      rw [List.filter_cons, List.filter_cons, hpq x y hxy]
      split
      · rw [List.map_cons, List.map_cons, hff' x y hxy, ih]
      · exact ih

namespace Alike

variable (halike : Alike edition ss ss' g h)

include halike

/-! ## Classes -/

theorem successors_perm (hc : SameClass g h c c') :
    ((g.successors c).map g.iri).Perm ((h.successors c').map h.iri) :=
  halike.hierarchy.perm_iris
    (fun d hd => (halike.left.inRange.successor (c, d) (Link.mem_targets.1 hd)).2)
    (fun d hd => (halike.right.inRange.successor (c', d) (Link.mem_targets.1 hd)).2)
    (g.successor.nodup_targets c) (h.successor.nodup_targets c') fun _ _ hd =>
      halike.successor_iff hc hd

theorem isDeprecated_eq (hc : SameClass g h c c') : g.isDeprecated c = h.isDeprecated c' := by
  have hlength := (halike.successors_perm hc).length_eq
  rw [List.length_map, List.length_map] at hlength
  unfold Graph.isDeprecated
  rw [Bool.eq_iff_iff]
  simp only [Bool.not_eq_true', List.isEmpty_eq_false_iff, ne_eq, ← List.length_eq_zero_iff,
    hlength]

theorem commentOf_eq (hc : SameClass g h c c') :
    (Resolver.ofGraph g context includeDeprecated).commentOf c =
      (Resolver.ofGraph h context includeDeprecated).commentOf c' := by
  have hperm := (halike.successors_perm hc).map context.scopedName
  rw [List.map_map, List.map_map] at hperm
  have hnote : deprecationNote ((g.successors c).map fun s => context.scopedName (g.iri s)) =
      deprecationNote ((h.successors c').map fun s => context.scopedName (h.iri s)) :=
    deprecationNote_congr fun n => hperm.mem_iff
  refine congrArg₂ withNote (halike.comment_eq hc) ?_
  show (if g.isDeprecated c then _ else none) = if h.isDeprecated c' then _ else none
  rw [halike.isDeprecated_eq hc]
  exact congrArg (fun note => if h.isDeprecated c' then some note else none) hnote

theorem visible_eq (hc : SameClass g h c c') :
    (Resolver.ofGraph g context includeDeprecated).visible c =
      (Resolver.ofGraph h context includeDeprecated).visible c' :=
  congrArg (fun b => includeDeprecated || !b) (halike.isDeprecated_eq hc)

theorem aliases_subset (hc : SameClass g h c c') {t : TypeRef} (ht : t ∈ g.aliases c) :
    t ∈ h.aliases c' := by
  obtain ⟨a, ha, ht⟩ := (Graph.mem_aliases halike.left.inRange hc.1 t).1 ht
  obtain ⟨a', hsame, ha'⟩ := halike.hierarchy.exists_ancestor_right hc ha
  exact (Graph.mem_aliases halike.right.inRange hc.2.1 t).2
    ⟨a', ha', halike.aliases_eq hsame ▸ ht⟩

theorem aliasesOf_eq (hc : SameClass g h c c') : g.aliases c = h.aliases c' := by
  have hmem : ∀ t, t ∈ g.aliases c ↔ t ∈ h.aliases c' :=
    fun t => ⟨halike.aliases_subset hc, halike.symm.aliases_subset hc.symm⟩
  simp only [Graph.aliases, TypeRef.mem_sortedSet] at hmem
  exact TypeRef.sortedSet_congr hmem

/-! ## Properties -/

theorem isDeprecated_property_eq (hp : SameProperty g h p p') :
    (g.property p).isDeprecated = (h.property p').isDeprecated := by
  have hiff : (g.property p).successors = [] ↔ (h.property p').successors = [] := by
    rw [List.eq_nil_iff_forall_not_mem, List.eq_nil_iff_forall_not_mem]
    exact forall_congr' fun t => not_congr (halike.mem_property_successors_iff hp t)
  unfold PropertyEntry.isDeprecated
  rw [Bool.eq_iff_iff]
  simp only [Bool.not_eq_true', List.isEmpty_eq_false_iff, ne_eq, hiff]

theorem visibleProperty_eq (hp : SameProperty g h p p') :
    (Resolver.ofGraph g context includeDeprecated).visibleProperty p =
      (Resolver.ofGraph h context includeDeprecated).visibleProperty p' :=
  congrArg (fun b => includeDeprecated || !b) (halike.isDeprecated_property_eq hp)

theorem exists_range_right (hp : SameProperty g h p p') {d : ClassId}
    (hd : d ∈ (g.property p).ranges) : ∃ d', SameClass g h d d' ∧ d' ∈ (h.property p').ranges := by
  have hids := halike.left.inRange.range _ (Graph.property_mem hp.1) d hd
  obtain ⟨d', hsame⟩ := halike.hierarchy.exists_right hids
  exact ⟨d', hsame, (halike.range_iff hp hsame).1 hd⟩

theorem range_identifier_subset (hp : SameProperty g h p p') {n : String}
    (hn : n ∈ (g.property p).ranges.map g.identifier) :
    n ∈ (h.property p').ranges.map h.identifier := by
  obtain ⟨d, hd, rfl⟩ := List.mem_map.1 hn
  obtain ⟨d', hsame, hd'⟩ := halike.exists_range_right hp hd
  exact List.mem_map.2 ⟨d', hd', hsame.identifier.symm⟩

theorem any_isNodeType_of_left (hp : SameProperty g h p p')
    (hany : (g.property p).ranges.any g.isNodeType = true) :
    (h.property p').ranges.any h.isNodeType = true := by
  obtain ⟨d, hd, hnode⟩ := List.any_eq_true.1 hany
  obtain ⟨d', hsame, hd'⟩ := halike.exists_range_right hp hd
  exact List.any_eq_true.2 ⟨d', hd', halike.hierarchy.isNodeType_eq hsame ▸ hnode⟩

theorem rangeType_eq (hp : SameProperty g h p p') : g.rangeType p = h.rangeType p' := by
  have hnames : sortedSet ((g.property p).ranges.map g.identifier) =
      sortedSet ((h.property p').ranges.map h.identifier) :=
    sortedSet_congr fun n => ⟨halike.range_identifier_subset hp,
      halike.symm.range_identifier_subset hp.symm⟩
  have hany : (g.property p).ranges.any g.isNodeType = (h.property p').ranges.any h.isNodeType :=
    Bool.eq_iff_iff.2 ⟨halike.any_isNodeType_of_left hp, halike.symm.any_isNodeType_of_left hp.symm⟩
  rw [Graph.rangeType, Graph.rangeType, hnames, hany]

theorem member_eq {b b' : Binding} (hb : b ∈ g.bindings) (hb' : b' ∈ h.bindings)
    (hp : SameProperty g h b.property b'.property) :
    (Resolver.ofGraph g context includeDeprecated).member b =
      (Resolver.ofGraph h context includeDeprecated).member b' := by
  have hkey : b.key = b'.key := by rw [halike.left.key b hb, halike.right.key b' hb', hp.2.2]
  have hnote : deprecationNote ((g.property b.property).successors.map
        (Resolver.ofGraph g context includeDeprecated).termName) =
      deprecationNote ((h.property b'.property).successors.map
        (Resolver.ofGraph h context includeDeprecated).termName) := by
    refine deprecationNote_congr fun n => ?_
    rw [List.mem_map, List.mem_map]
    exact exists_congr fun t => and_congr_left fun _ => halike.mem_property_successors_iff hp t
  show Member.mk (g.property b.property).iri (context.scopedName b.key)
      (withNote (g.property b.property).comment (if (g.property b.property).isDeprecated then some
        (deprecationNote ((g.property b.property).successors.map
          (Resolver.ofGraph g context includeDeprecated).termName)) else none))
      (g.property b.property).isDeprecated (g.rangeType b.property) =
    Member.mk (h.property b'.property).iri (context.scopedName b'.key)
      (withNote (h.property b'.property).comment (if (h.property b'.property).isDeprecated then some
        (deprecationNote ((h.property b'.property).successors.map
          (Resolver.ofGraph h context includeDeprecated).termName)) else none))
      (h.property b'.property).isDeprecated (h.rangeType b'.property)
  rw [hnote, hkey, hp.2.2, halike.property_comment_eq hp, halike.isDeprecated_property_eq hp,
    halike.rangeType_eq hp]

/-! ## Members -/

/-- The bindings of a class that are included. -/
theorem mem_visibleBindings_right (hc : SameClass g h c c') {a : Iri}
    (ha : a ∈ ((g.bindingsOf c).filter fun b =>
      (Resolver.ofGraph g context includeDeprecated).visibleProperty b.property).map
        fun b => (g.property b.property).iri) :
    a ∈ ((h.bindingsOf c').filter fun b =>
      (Resolver.ofGraph h context includeDeprecated).visibleProperty b.property).map
        fun b => (h.property b.property).iri := by
  obtain ⟨b, hb, rfl⟩ := List.mem_map.1 ha
  rw [List.mem_filter, Graph.bindingsOf, List.mem_filter, decide_eq_true_iff] at hb
  obtain ⟨⟨hb, howner⟩, hvisible⟩ := hb
  obtain ⟨p', hp, b', hb', howner', rfl⟩ := halike.exists_bound_right hc ⟨b, hb, howner, rfl⟩
  refine List.mem_map.2 ⟨b', List.mem_filter.2 ⟨?_, ?_⟩, hp.2.2.symm⟩
  · exact List.mem_filter.2 ⟨hb', decide_eq_true howner'⟩
  · rw [← halike.visibleProperty_eq hp]
    exact hvisible

theorem members_perm (hc : SameClass g h c c') :
    (((g.bindingsOf c).filter fun b =>
        (Resolver.ofGraph g context includeDeprecated).visibleProperty b.property).map
      (Resolver.ofGraph g context includeDeprecated).member).Perm
    (((h.bindingsOf c').filter fun b =>
        (Resolver.ofGraph h context includeDeprecated).visibleProperty b.property).map
      (Resolver.ofGraph h context includeDeprecated).member) := by
  have hiris : (((g.bindingsOf c).filter fun b =>
        (Resolver.ofGraph g context includeDeprecated).visibleProperty b.property).map
      fun b => (g.property b.property).iri).Perm
    (((h.bindingsOf c').filter fun b =>
        (Resolver.ofGraph h context includeDeprecated).visibleProperty b.property).map
      fun b => (h.property b.property).iri) := by
    refine (List.perm_ext_iff_of_nodup ?_ ?_).2 fun a => ?_
    · exact (halike.left.nodup_bound c).sublist (List.filter_sublist.map _)
    · exact (halike.right.nodup_bound c').sublist (List.filter_sublist.map _)
    · exact ⟨halike.mem_visibleBindings_right hc, halike.symm.mem_visibleBindings_right hc.symm⟩
  refine perm_map_of_perm_map (fun b hb b' hb' hiri => ?_) hiris
  have hb := List.mem_of_mem_filter (List.mem_of_mem_filter hb)
  have hb' := List.mem_of_mem_filter (List.mem_of_mem_filter hb')
  exact halike.member_eq hb hb' ⟨(halike.left.inRange.binding b hb).2,
    (halike.right.inRange.binding b' hb').2, hiri⟩

theorem members_eq (hc : SameClass g h c c') :
    (Resolver.ofGraph g context includeDeprecated).members c =
      (Resolver.ofGraph h context includeDeprecated).members c' := by
  unfold Resolver.members
  refine sortWith_eq_of_perm (fun m hm m' hm' hmm' => ?_) (halike.members_perm hc)
  obtain ⟨b, hb, rfl⟩ := List.mem_map.1 hm
  obtain ⟨b', hb', rfl⟩ := List.mem_map.1 hm'
  -- members with one IRI are made from one binding
  rw [compareLex, Ordering.then_eq_eq] at hmm'
  have htext := Std.LawfulEqOrd.eq_of_compare hmm'.2
  rw [halike.left.eq_of_bindings (List.mem_of_mem_filter hb) (List.mem_of_mem_filter hb')
    (congrArg Iri.mk htext)]

theorem base?_eq (hc : SameClass g h c c') :
    (Resolver.ofGraph g context includeDeprecated).base? c =
      (Resolver.ofGraph h context includeDeprecated).base? c' := by
  have hshape : (Resolver.ofGraph g context includeDeprecated).layout.shape c =
      (Resolver.ofGraph h context includeDeprecated).layout.shape c' :=
    halike.hierarchy.shape_eq hc
  unfold Resolver.base?
  rw [hshape, halike.members_eq hc]

theorem leaf?_eq (hc : SameClass g h c c') :
    (Resolver.ofGraph g context includeDeprecated).leaf? c =
      (Resolver.ofGraph h context includeDeprecated).leaf? c' := by
  have hshape : (Resolver.ofGraph g context includeDeprecated).layout.shape c =
      (Resolver.ofGraph h context includeDeprecated).layout.shape c' :=
    halike.hierarchy.shape_eq hc
  have hname : (Resolver.ofGraph g context includeDeprecated).nameOf (g.iri c) =
      (Resolver.ofGraph h context includeDeprecated).nameOf (h.iri c') :=
    congrArg context.scopedName hc.2.2
  unfold Resolver.leaf?
  rw [hshape, halike.base?_eq hc]
  exact congrArg (fun name => Option.map (fun n => Leaf.mk n _ name) _) hname

/-! ## Enumeration values -/

omit halike in
theorem spellings_eq (hv : SameValue g h v v') :
    (Resolver.ofGraph g context includeDeprecated).spellings v =
      (Resolver.ofGraph h context includeDeprecated).spellings v' := by
  have hiri : ((Resolver.ofGraph g context includeDeprecated).graph.value v).iri =
      ((Resolver.ofGraph h context includeDeprecated).graph.value v').iri := hv.2.2
  unfold Resolver.spellings
  rw [hiri]
  rfl

theorem enumMember_eq (hv : SameValue g h v v') :
    (Resolver.ofGraph g context includeDeprecated).enumMember v =
      (Resolver.ofGraph h context includeDeprecated).enumMember v' := by
  show EnumMember.mk (g.value v).iri (context.scopedName (g.value v).iri) (g.value v).comment
      ((Resolver.ofGraph g context includeDeprecated).spellings v) =
    EnumMember.mk (h.value v').iri (context.scopedName (h.value v').iri) (h.value v').comment
      ((Resolver.ofGraph h context includeDeprecated).spellings v')
  rw [hv.2.2, halike.value_comment_eq hv, spellings_eq hv]

theorem exists_member_right (hc : SameClass g h c c') (hv : v ∈ g.valuesOf c) :
    ∃ v', SameValue g h v v' ∧ v' ∈ h.valuesOf c' := by
  have hlt := (halike.left.inRange.membership (c, v) (Link.mem_targets.1 hv)).2
  obtain ⟨v', hsame⟩ := halike.exists_value_right hlt
  exact ⟨v', hsame, (halike.member_iff hc hsame).1 hv⟩

theorem values_perm (hc : SameClass g h c c') :
    ((g.valuesOf c).map fun v => (g.value v).iri).Perm
      ((h.valuesOf c').map fun v => (h.value v).iri) := by
  refine (List.perm_ext_iff_of_nodup (halike.left.nodup_valuesOf c)
    (halike.right.nodup_valuesOf c')).2 fun a => ?_
  rw [List.mem_map, List.mem_map]
  constructor
  · rintro ⟨v, hv, rfl⟩
    obtain ⟨v', hsame, hv'⟩ := halike.exists_member_right hc hv
    exact ⟨v', hv', hsame.2.2.symm⟩
  · rintro ⟨v', hv', rfl⟩
    obtain ⟨v, hsame, hv⟩ := halike.symm.exists_member_right hc.symm hv'
    exact ⟨v, hv, hsame.2.2.symm⟩

theorem enumMembers_eq (hc : SameClass g h c c') :
    (Resolver.ofGraph g context includeDeprecated).enumMembers c =
      (Resolver.ofGraph h context includeDeprecated).enumMembers c' := by
  have hlt : ∀ v ∈ g.valuesOf c, v < g.values.length :=
    fun v hv => (halike.left.inRange.membership (c, v) (Link.mem_targets.1 hv)).2
  have hlt' : ∀ v ∈ h.valuesOf c', v < h.values.length :=
    fun v hv => (halike.right.inRange.membership (c', v) (Link.mem_targets.1 hv)).2
  unfold Resolver.enumMembers
  refine sortWith_eq_of_perm (fun m hm m' hm' hmm' => ?_) (perm_map_of_perm_map
    (fun v hv v' hv' hiri => halike.enumMember_eq ⟨hlt v hv, hlt' v' hv', hiri⟩)
    (halike.values_perm hc))
  obtain ⟨v, hv, rfl⟩ := List.mem_map.1 hm
  obtain ⟨w, hw, rfl⟩ := List.mem_map.1 hm'
  rw [compareLex, Ordering.then_eq_eq] at hmm'
  have htext := Std.LawfulEqOrd.eq_of_compare hmm'.2
  rw [Graph.eq_of_value_iri_eq halike.left.nodup_valueIris (hlt v hv) (hlt w hw)
    (congrArg Iri.mk htext)]

/-! ## Total types -/

theorem mem_spellings_right (hc : SameClass g h c c') {n : String}
    (hn : n ∈ (g.valuesOf c).flatMap (Resolver.ofGraph g context includeDeprecated).spellings) :
    n ∈ (h.valuesOf c').flatMap (Resolver.ofGraph h context includeDeprecated).spellings := by
  obtain ⟨v, hv, hn⟩ := List.mem_flatMap.1 hn
  obtain ⟨v', hsame, hv'⟩ := halike.exists_member_right hc hv
  exact List.mem_flatMap.2 ⟨v', hv', spellings_eq hsame ▸ hn⟩

theorem mem_children_right (hc : SameClass g h c c') {n : String}
    (hn : n ∈ ((g.children c).filter
      (Resolver.ofGraph g context includeDeprecated).visible).map g.identifier) :
    n ∈ ((h.children c').filter
      (Resolver.ofGraph h context includeDeprecated).visible).map h.identifier := by
  obtain ⟨d, hd, rfl⟩ := List.mem_map.1 hn
  obtain ⟨hchild, hvisible⟩ := List.mem_filter.1 hd
  -- children are superclasses read the other way
  have hbelow : g.Below d c := Graph.mem_parents_iff_mem_children.2 hchild
  obtain ⟨d', hsame⟩ := halike.hierarchy.exists_right
    (halike.left.inRange.mem_ids_of_below hbelow).1
  refine List.mem_map.2 ⟨d', List.mem_filter.2 ⟨?_, ?_⟩, hsame.identifier.symm⟩
  · exact Graph.mem_parents_iff_mem_children.1
      ((halike.hierarchy.below d d' c c' hsame hc).1 hbelow)
  · rw [← halike.visible_eq hsame]
    exact hvisible

theorem mem_unionMembers_right (hc : SameClass g h c c') {n : String}
    (hn : n ∈ (g.unionMembers c).map g.identifier) :
    n ∈ (h.unionMembers c').map h.identifier := by
  obtain ⟨d, hd, rfl⟩ := List.mem_map.1 hn
  obtain ⟨d', hsame⟩ := halike.hierarchy.exists_right
    (halike.left.inRange.unionMember (c, d) (Link.mem_targets.1 hd)).2
  exact List.mem_map.2 ⟨d', (halike.unionMember_iff hc hsame).1 hd, hsame.identifier.symm⟩

theorem totalOfClass_eq (hc : SameClass g h c c') :
    (Resolver.ofGraph g context includeDeprecated).totalOfClass c =
      (Resolver.ofGraph h context includeDeprecated).totalOfClass c' := by
  have hvalues : sortedSet ((g.valuesOf c).flatMap
        (Resolver.ofGraph g context includeDeprecated).spellings) =
      sortedSet ((h.valuesOf c').flatMap
        (Resolver.ofGraph h context includeDeprecated).spellings) :=
    sortedSet_congr fun n =>
      ⟨halike.mem_spellings_right hc, halike.symm.mem_spellings_right hc.symm⟩
  have hchildren : sortedSet (((g.children c).filter
        (Resolver.ofGraph g context includeDeprecated).visible).map g.identifier) =
      sortedSet (((h.children c').filter
        (Resolver.ofGraph h context includeDeprecated).visible).map h.identifier) :=
    sortedSet_congr fun n => ⟨halike.mem_children_right hc, halike.symm.mem_children_right hc.symm⟩
  have haliases : (Resolver.ofGraph g context includeDeprecated).graph.aliases c =
      (Resolver.ofGraph h context includeDeprecated).graph.aliases c' := halike.aliasesOf_eq hc
  unfold Resolver.totalOfClass
  rw [halike.leaf?_eq hc, haliases]
  exact congrArg₂ (fun values children => values.map TypeRef.literal ++ _
    ++ children.map TypeRef.named ++ _) hvalues hchildren

theorem totalOfUnion_eq (hc : SameClass g h c c') :
    (Resolver.ofGraph g context includeDeprecated).totalOfUnion c =
      (Resolver.ofGraph h context includeDeprecated).totalOfUnion c' :=
  congrArg (List.map TypeRef.named) (sortedSet_congr fun _ =>
    ⟨halike.mem_unionMembers_right hc, halike.symm.mem_unionMembers_right hc.symm⟩)

/-! ## Declarations -/

theorem parents_eq (hc : SameClass g h c c') :
    sortWith compare ((g.parents c).map fun p => context.scopedName (g.iri p)) =
      sortWith compare ((h.parents c').map fun p => context.scopedName (h.iri p)) := by
  have hperm := (halike.hierarchy.parents_perm hc).map context.scopedName
  rw [List.map_map, List.map_map] at hperm
  exact sortWith_compare_eq_of_perm hperm

/-- Corresponding classes have equal declarations. -/
theorem declaration_eq (hc : SameClass g h c c') :
    (Resolver.ofGraph g context includeDeprecated).declaration c =
      (Resolver.ofGraph h context includeDeprecated).declaration c' := by
  have hkind : (Resolver.ofGraph g context includeDeprecated).graph.kind c =
      (Resolver.ofGraph h context includeDeprecated).graph.kind c' := halike.hierarchy.kind c c' hc
  refine (Declaration.mk.injEq ..).mpr ⟨hc.2.2, congrArg context.scopedName hc.2.2, hc.identifier,
    hkind, halike.commentOf_eq hc, halike.isDeprecated_eq hc, halike.parents_eq hc, ?_, ?_, ?_,
    halike.enumMembers_eq hc⟩
  · rw [hkind, halike.base?_eq hc]
  · rw [hkind, halike.leaf?_eq hc]
  · rw [hkind, halike.totalOfUnion_eq hc, halike.totalOfClass_eq hc]

/-- The classes are declared in the same order, and their declarations are equal. -/
theorem declarationsOf_eq (o : Options) : declarationsOf g o = declarationsOf h o := by
  have hids := halike.hierarchy.forall₂_sortedIds halike.left.eq_of_union
  exact map_filter_eq_of_forall₂ (fun _ _ hc => halike.visible_eq hc)
    (fun _ _ hc => halike.declaration_eq hc) hids

/-! ## Helpers -/

theorem any_iri_of_left {q : Iri → Bool} (hany : g.ids.any (fun c => q (g.iri c)) = true) :
    h.ids.any (fun c => q (h.iri c)) = true := by
  obtain ⟨c, hc, hq⟩ := List.any_eq_true.1 hany
  obtain ⟨c', hsame⟩ := halike.hierarchy.exists_right hc
  exact List.any_eq_true.2 ⟨c', hsame.2.1, hsame.2.2 ▸ hq⟩

/-- The class of all objects has one name, in whichever edition it is written. -/
theorem root_of_left {n : String} (hn : (Preamble.ofGraph g context).root = some n) :
    (Preamble.ofGraph h context).root = some n := by
  obtain ⟨c, hfind, rfl⟩ := Option.map_eq_some_iff.1 hn
  have hroot := List.find?_some hfind
  rw [Bool.and_eq_true, decide_eq_true_iff] at hroot
  obtain ⟨c', hsame⟩ := halike.hierarchy.exists_right (List.mem_of_find?_eq_some hfind)
  -- the class that is found there need not be the corresponding one, if both editions are used
  have hsome :
      (h.ids.find? fun c => h.kind c = .ordinary && (h.iri c).isSchema "Thing").isSome := by
    refine List.find?_isSome.2 ⟨c', hsame.2.1, ?_⟩
    rw [← halike.hierarchy.kind c c' hsame, ← hsame.2.2, hroot.1, hroot.2]
    rfl
  obtain ⟨d, hd⟩ := Option.isSome_iff_exists.1 hsome
  have hthing := List.find?_some hd
  rw [Bool.and_eq_true] at hthing
  refine Option.map_eq_some_iff.2 ⟨d, hd, ?_⟩
  exact (Iri.identifier_of_isSchema (Or.inr rfl) hthing.2).trans
    (Iri.identifier_of_isSchema (Or.inr rfl) hroot.2).symm

theorem preamble_eq (context : Context) :
    Preamble.ofGraph g context = Preamble.ofGraph h context := by
  have hrole : (Preamble.ofGraph g context).hasRole = (Preamble.ofGraph h context).hasRole :=
    Bool.eq_iff_iff.2 ⟨halike.any_iri_of_left (q := (·.isSchema "Role")),
      halike.symm.any_iri_of_left (q := (·.isSchema "Role"))⟩
  have hroot : (Preamble.ofGraph g context).root = (Preamble.ofGraph h context).root :=
    Option.ext fun _ => ⟨halike.root_of_left, halike.symm.root_of_left⟩
  exact congrArg₂ (fun role root => Preamble.mk Helper.all role context.value root) hrole hroot

end Alike

end Ontotype

import Ontotype.Proofs.Assembly.Respelling
import Ontotype.Proofs.Declaration.References

set_option autoImplicit false

/-! # Declaring respelt classes

Declarations show names, and sort by them. So where renaming changes none of the names that are made
from the IRIs of a graph (`Graph.KeepsNames`), respelling the graph changes nothing in a declaration
but the IRIs that it carries, and the spellings of enumeration values. Only where two names are
equal their IRIs decide which of them comes first, and there the IRIs have to compare as before
(`Graph.KeepsOrder`). They do if no IRI is renamed, and they do if different things have different
names (`Graph.DistinctNames`). -/

namespace Ontotype

open Vocabulary

variable {ρ : Iri → Iri} {g : Graph} {context : Context} {edition : Edition} {ss : List Statement}
  {includeDeprecated : Bool} {c : ClassId}

/-! ## Names -/

/-- The renaming changes no name that is made from an IRI of the graph. -/
structure Graph.KeepsNames (g : Graph) (ρ : Iri → Iri) (context : Context) : Prop where
  fixed : ρ default = default
  localName : ∀ a ∈ g.iris, (ρ a).localName = a.localName
  scopedName : ∀ a ∈ g.iris, context.scopedName (ρ a) = context.scopedName a

/-- The renamed IRIs compare as the IRIs do. -/
def Iri.SameOrder (ρ : Iri → Iri) (a b : Iri) : Prop :=
  compare (ρ a).text (ρ b).text = compare a.text b.text

/-- Where two names are equal, the renamed IRIs compare as the IRIs do. -/
structure Graph.KeepsOrder (g : Graph) (ρ : Iri → Iri) (context : Context) : Prop where
  classes : ∀ c ∈ g.ids, ∀ d ∈ g.ids, g.identifier c = g.identifier d →
    (g.iri c).SameOrder ρ (g.iri d)
  properties : ∀ b ∈ g.bindings, ∀ b' ∈ g.bindings,
    context.scopedName b.key = context.scopedName b'.key →
      (g.property b.property).iri.SameOrder ρ (g.property b'.property).iri
  values : ∀ c, ∀ v ∈ g.valuesOf c, ∀ w ∈ g.valuesOf c,
    context.scopedName (g.value v).iri = context.scopedName (g.value w).iri →
      (g.value v).iri.SameOrder ρ (g.value w).iri

/-- Classes, properties and enumeration values are told apart by their names. -/
structure Graph.DistinctNames (g : Graph) (context : Context) : Prop where
  identifiers : g.DistinctIdentifiers
  properties : (g.propertyIris.map context.scopedName).Nodup
  values : (g.valueIris.map context.scopedName).Nodup

theorem Iri.sameOrder_of_eq {a b : Iri} (h : a = b) : a.SameOrder ρ b := by
  rw [SameOrder, h, Std.ReflOrd.compare_self, Std.ReflOrd.compare_self]

theorem Graph.keepsNames_id (g : Graph) (context : Context) : g.KeepsNames id context :=
  ⟨rfl, fun _ _ => rfl, fun _ _ => rfl⟩

theorem Graph.keepsOrder_id (g : Graph) (context : Context) : g.KeepsOrder id context :=
  ⟨fun _ _ _ _ _ => rfl, fun _ _ _ _ _ => rfl, fun _ _ _ _ _ _ => rfl⟩

/-- No two names are equal, so there is nothing for the IRIs to decide. -/
theorem Graph.DistinctNames.keepsOrder (h : g.DistinctNames context) (hp : Portrays edition ss g) :
    g.KeepsOrder ρ context where
  classes c hc d hd heq :=
    Iri.sameOrder_of_eq (congrArg g.iri (h.identifiers.eq_of_identifier_eq hc hd heq))
  properties b hb b' hb' heq := by
    have hkey : ∀ b ∈ g.bindings, b.key ∈ g.propertyIris := fun b hb => by
      rw [hp.key b hb]
      exact mem_propertyIris.2 ⟨_, (hp.inRange.binding b hb).2, rfl⟩
    refine Iri.sameOrder_of_eq ?_
    rw [← hp.key b hb, ← hp.key b' hb']
    exact List.inj_on_of_nodup_map h.properties (hkey b hb) (hkey b' hb') heq
  values c v hv w hw heq := by
    have hvalue : ∀ v ∈ g.valuesOf c, (g.value v).iri ∈ g.valueIris := fun v hv =>
      mem_valueIris.2 ⟨v, (hp.inRange.membership _ (Link.mem_targets.1 hv)).2, rfl⟩
    exact Iri.sameOrder_of_eq
      (List.inj_on_of_nodup_map h.values (hvalue v hv) (hvalue w hw) heq)

/-- A comparison of names is all there is, if what is compared next agrees where the names do. -/
theorem then_congr_of_compare {x y : String} {o o' : Ordering} (h : x = y → o = o') :
    (compare x y).then o = (compare x y).then o' := by
  cases hxy : compare x y with
  | lt => rfl
  | gt => rfl
  | eq => exact h (Std.LawfulEqOrd.eq_of_compare hxy)

namespace Graph

theorem kind_respell (ρ : Iri → Iri) (g : Graph) (c : ClassId) :
    (g.respell ρ).kind c = g.kind c := by
  rw [kind, entry, respell, List.getElem?_map, kind, entry]
  cases g.classes[c]? <;> rfl

theorem bindingsOf_respell (ρ : Iri → Iri) (g : Graph) (c : ClassId) :
    (g.respell ρ).bindingsOf c = (g.bindingsOf c).map (Binding.respell ρ) := by
  rw [bindingsOf, respell, List.filter_map]
  rfl

theorem isNodeType_respell (ρ : Iri → Iri) (g : Graph) (c : ClassId) :
    (g.respell ρ).isNodeType c = g.isNodeType c := by
  have hdeciding : (g.respell ρ).decidingParents = g.decidingParents := by
    funext a
    unfold decidingParents
    simp only [kind_respell, bindingsOf_respell, List.map_eq_nil_iff]
    rfl
  rw [isNodeType, reach, size_respell, hdeciding, isNodeType]
  simp only [kind_respell]
  rfl

namespace KeepsNames

variable (h : g.KeepsNames ρ context)

include h

theorem localName_iri (c : ClassId) : ((g.respell ρ).iri c).localName = (g.iri c).localName := by
  rw [iri_respell ρ g h.fixed]
  exact forall_getD (P := fun e : ClassEntry => (ρ e.iri).localName = e.iri.localName)
    (fun e he => h.localName _ (mem_iris.2 (.inl (List.mem_map_of_mem he))))
    (congrArg Iri.localName h.fixed) c

theorem scopedName_iri (c : ClassId) :
    context.scopedName ((g.respell ρ).iri c) = context.scopedName (g.iri c) := by
  rw [iri_respell ρ g h.fixed]
  exact forall_getD (P := fun e : ClassEntry => context.scopedName (ρ e.iri) =
      context.scopedName e.iri)
    (fun e he => h.scopedName _ (mem_iris.2 (.inl (List.mem_map_of_mem he))))
    (congrArg context.scopedName h.fixed) c

theorem scopedName_value (v : ValueId) :
    context.scopedName ((g.respell ρ).value v).iri = context.scopedName (g.value v).iri := by
  rw [value_respell ρ g h.fixed]
  exact forall_getD (P := fun e : ValueEntry => context.scopedName (ρ e.iri) =
      context.scopedName e.iri)
    (fun e he => h.scopedName _ (mem_iris.2 (.inr (.inr (.inr (List.mem_map_of_mem he))))))
    (congrArg context.scopedName h.fixed) v

theorem identifier_respell (c : ClassId) : (g.respell ρ).identifier c = g.identifier c := by
  rw [identifier, Iri.identifier, h.localName_iri, identifier, Iri.identifier]

theorem rangeType_respell (p : PropertyId) : (g.respell ρ).rangeType p = g.rangeType p := by
  rw [rangeType, ranges_respell, funext h.identifier_respell, funext (isNodeType_respell ρ g),
    rangeType]

theorem aliases_respell (c : ClassId) : (g.respell ρ).aliases c = g.aliases c := by
  have hentries : ∀ a, ((g.respell ρ).entry a).aliases = (g.entry a).aliases := by
    intro a
    rw [entry_respell ρ g h.fixed]
    rfl
  rw [aliases, ancestors_respell, aliases]
  simp only [hentries]

/-! ## Orders -/

variable (ho : g.KeepsOrder ρ context)

include ho

theorem byIdentifier_respell {cs : List ClassId} (hcs : ∀ c ∈ cs, c ∈ g.ids) :
    (g.respell ρ).byIdentifier cs = g.byIdentifier cs := by
  have hsort : ∀ h : Graph, h.byIdentifier cs = sortWith (fun c d =>
      (compare (h.identifier c) (h.identifier d)).then
        (compare (h.iri c).text (h.iri d).text)) cs := by
    intro h
    rw [byIdentifier, ← map_sortWith (fun c => (h.identifier c, (h.iri c).text, c)) _ _
      (fun _ _ => rfl), List.map_map]
    exact List.map_id _
  rw [hsort, hsort]
  refine sortWith_congr fun c hc d hd => ?_
  rw [h.identifier_respell, h.identifier_respell, iri_respell ρ g h.fixed,
    iri_respell ρ g h.fixed]
  exact then_congr_of_compare (ho.classes c (hcs c hc) d (hcs d hd))

theorem sortedIds_respell : (g.respell ρ).sortedIds = g.sortedIds := by
  have hsort : ∀ h : Graph, h.sortedIds =
      sortWith (fun c d => (h.place c).compare (h.place d)) h.ids := by
    intro h
    rw [sortedIds, ← map_sortWith (fun c => (h.place c, c)) _ _ (fun _ _ => rfl), List.map_map]
    exact List.map_id _
  rw [hsort, hsort, ids_respell]
  refine sortWith_congr fun c hc d hd => ?_
  rw [Place.compare, Place.compare, place, place, place, place, kind_respell, kind_respell,
    h.localName_iri, h.localName_iri, iri_respell ρ g h.fixed, iri_respell ρ g h.fixed]
  refine congrArg _ (if_congr Iff.rfl rfl (then_congr_of_compare fun heq => ?_))
  -- one local name makes one identifier
  have hname : (g.iri c).localName = (g.iri d).localName := heq
  refine ho.classes c hc d hd ?_
  rw [identifier, Iri.identifier, hname, identifier, Iri.identifier]

/-! ## Layout -/

theorem settle_respell (hg : g.InRange) (budget : Nat) :
    (g.respell ρ).settle budget = g.settle budget := by
  induction budget with
  | zero => rfl
  | succ budget ih =>
      have hshape : ∀ l c, (g.respell ρ).shapeAfter l c = g.shapeAfter l c := by
        intro l c
        rw [shapeAfter, h.identifier_respell, isNodeType_respell, bindingsOf_respell,
          List.isEmpty_map]
        rfl
      funext path l c
      have horder : (g.respell ρ).byIdentifier ((g.respell ρ).parents c) =
          g.byIdentifier (g.parents c) :=
        h.byIdentifier_respell ho fun p hp => (hg.mem_ids_of_below hp).2
      rw [settle, settle, ih, horder]
      simp only [hshape]

theorem layout_respell (hg : g.InRange) : (g.respell ρ).layout = g.layout := by
  rw [layout, h.settle_respell ho hg, ids_respell, size_respell,
    h.byIdentifier_respell ho fun _ hc => hc, layout]

end KeepsNames

end Graph

/-! ## Resolving -/

/-- The property with its IRI renamed. -/
def Member.rename (ρ : Iri → Iri) (m : Member) : Member := { m with iri := ρ m.iri }

/-- The base with the IRIs of its properties renamed. -/
def Base.rename (ρ : Iri → Iri) (b : Base) : Base :=
  { b with members := b.members.map (Member.rename ρ) }

theorem PropertyEntry.isDeprecated_respell (e : PropertyEntry) :
    (e.respell ρ).isDeprecated = e.isDeprecated := by
  rw [isDeprecated, respell, List.isEmpty_map, isDeprecated]

namespace Resolver

/-- The resolver of the respelt graph, with the layout of the graph. -/
def respell (ρ : Iri → Iri) (r : Resolver) : Resolver := { r with graph := r.graph.respell ρ }

/-- The enumeration values of a class in the order of their names. -/
def sortedValues (r : Resolver) (c : ClassId) : List ValueId :=
  sortWith (fun v w =>
    (compare (r.nameOf (r.graph.value v).iri) (r.nameOf (r.graph.value w).iri)).then
      (compare (r.graph.value v).iri.text (r.graph.value w).iri.text)) (r.graph.valuesOf c)

/-- The alternatives of the total type of a class that are no texts. -/
def nonTexts (r : Resolver) (c : ClassId) : List TypeRef :=
  (r.leaf? c).toList.map (fun leaf => .named leaf.name)
    ++ (sortedSet (((r.graph.children c).filter r.visible).map r.graph.identifier)).map .named
    ++ r.graph.aliases c

theorem enumMembers_eq_map (r : Resolver) (c : ClassId) :
    r.enumMembers c = (r.sortedValues c).map r.enumMember :=
  (map_sortWith r.enumMember _ _ (fun _ _ => rfl) (r.graph.valuesOf c)).symm

/-- The texts come first in a total type. -/
theorem totalOfClass_eq (r : Resolver) (c : ClassId) : r.totalOfClass c =
    (sortedSet ((r.graph.valuesOf c).flatMap r.spellings)).map .literal ++ r.nonTexts c := by
  rw [totalOfClass, nonTexts, List.append_assoc, List.append_assoc, List.append_assoc]

theorem literal_not_mem_nonTexts {r : Resolver} (hp : Portrays edition ss r.graph)
    (hc : c ∈ r.graph.ids) (text : String) : .literal text ∉ r.nonTexts c := by
  intro hmem
  rcases List.mem_append.1 hmem with hmem | hmem
  · rcases List.mem_append.1 hmem with hmem | hmem <;>
      exact absurd hmem (by simp)
  · obtain ⟨p, heq⟩ :=
      Graph.exists_primitive_of_mem_aliases hp.inRange hc hp.aliases_primitive hmem
    exact absurd heq (by simp)

variable {r : Resolver}

theorem termName_of_iri? {t : Term} {a : Iri} (h : t.iri? = some a) :
    r.termName t = r.nameOf a := by
  cases t with
  | entity b => exact congrArg r.nameOf (Option.some.inj h)
  | literal value language => exact absurd h (by simp [Term.iri?])
  | compact label name => simp only [termName, h]

section

variable (h : r.graph.KeepsNames ρ r.context)

include h

theorem property_respell (p : PropertyId) :
    (r.respell ρ).graph.property p = (r.graph.property p).respell ρ :=
  r.graph.property_respell ρ h.fixed p

theorem value_respell (v : ValueId) :
    (r.respell ρ).graph.value v = (r.graph.value v).respell ρ :=
  r.graph.value_respell ρ h.fixed v

theorem commentOf_respell (c : ClassId) : (r.respell ρ).commentOf c = r.commentOf c := by
  have hnames : ∀ s, (r.respell ρ).nameOf ((r.graph.respell ρ).iri s) =
      r.nameOf (r.graph.iri s) := h.scopedName_iri
  have hcomment : ((r.graph.respell ρ).entry c).comment = (r.graph.entry c).comment := by
    rw [r.graph.entry_respell ρ h.fixed]
    rfl
  unfold commentOf
  show withNote ((r.graph.respell ρ).entry c).comment (if r.graph.isDeprecated c then
    some (deprecationNote ((r.graph.successors c).map fun s =>
      (r.respell ρ).nameOf ((r.graph.respell ρ).iri s))) else none) = _
  rw [hcomment, funext hnames]

theorem termName_respell {p : PropertyEntry} (hp : p ∈ r.graph.properties) {t : Term}
    (ht : t ∈ p.successors) : (r.respell ρ).termName (t.respell ρ) = r.termName t := by
  cases hiri : t.iri? with
  | none =>
      rw [Term.respell_of_iri?_eq_none hiri]
      rfl
  | some a =>
      rw [Term.respell_of_iri? hiri, termName_of_iri? hiri]
      exact h.scopedName a (Graph.mem_iris.2 (.inr (.inl ⟨p, hp, List.mem_cons_of_mem _
        (List.mem_filterMap.2 ⟨t, ht, hiri⟩)⟩)))

theorem member_respell {b : Binding} (hb : b ∈ r.graph.bindings) :
    (r.respell ρ).member (b.respell ρ) = (r.member b).rename ρ := by
  have hkey : r.context.scopedName (ρ b.key) = r.context.scopedName b.key :=
    h.scopedName _ (Graph.mem_iris.2 (.inr (.inr (.inl ⟨b, hb, rfl⟩))))
  have hsuccessors : ((r.graph.property b.property).successors.map (Term.respell ρ)).map
      (r.respell ρ).termName = (r.graph.property b.property).successors.map r.termName := by
    rw [List.map_map]
    refine List.map_congr_left ?_
    exact forall_getD (P := fun p : PropertyEntry => ∀ t ∈ p.successors,
      (r.respell ρ).termName (t.respell ρ) = r.termName t)
      (fun p hp t ht => termName_respell h hp ht) (fun t ht => absurd ht List.not_mem_nil)
        b.property
  have hproperty : (r.respell ρ).graph.property b.property =
      (r.graph.property b.property).respell ρ := property_respell h b.property
  have hdeprecated := (congrArg PropertyEntry.isDeprecated hproperty).trans
    (PropertyEntry.isDeprecated_respell _)
  refine (Member.mk.injEq ..).mpr
    ⟨congrArg PropertyEntry.iri hproperty, hkey, ?_, hdeprecated, h.rangeType_respell b.property⟩
  show withNote ((r.respell ρ).graph.property b.property).comment
    (if ((r.respell ρ).graph.property b.property).isDeprecated then some (deprecationNote
      (((r.respell ρ).graph.property b.property).successors.map (r.respell ρ).termName))
        else none) = _
  rw [hdeprecated, hproperty]
  exact congrArg (fun names => withNote (r.graph.property b.property).comment
    (if (r.graph.property b.property).isDeprecated then some (deprecationNote names) else none))
    hsuccessors

theorem totalOfUnion_respell (c : ClassId) : (r.respell ρ).totalOfUnion c = r.totalOfUnion c := by
  have hidentifier : (r.respell ρ).graph.identifier = r.graph.identifier :=
    funext h.identifier_respell
  rw [totalOfUnion, hidentifier]
  rfl

/-! ## Sorted parts -/

variable (ho : r.graph.KeepsOrder ρ r.context)

include ho

theorem members_respell (c : ClassId) :
    (r.respell ρ).members c = (r.members c).map (Member.rename ρ) := by
  have hvisible : ∀ p, (r.respell ρ).visibleProperty p = r.visibleProperty p := by
    intro p
    rw [visibleProperty, property_respell h, PropertyEntry.isDeprecated_respell, visibleProperty]
    rfl
  have hlist : (((r.respell ρ).graph.bindingsOf c).filter fun b =>
        (r.respell ρ).visibleProperty b.property).map (r.respell ρ).member =
      (((r.graph.bindingsOf c).filter fun b => r.visibleProperty b.property).map r.member).map
        (Member.rename ρ) := by
    rw [show (r.respell ρ).graph.bindingsOf c = _ from r.graph.bindingsOf_respell ρ c,
      List.filter_map, List.map_map, List.map_map, funext hvisible]
    refine List.map_congr_left fun b hb => member_respell h ?_
    exact List.mem_of_mem_filter (List.mem_of_mem_filter hb)
  rw [members, hlist, members]
  refine (map_sortWith_of_mem fun m hm m' hm' => ?_).symm
  obtain ⟨b, hb, rfl⟩ := List.mem_map.1 hm
  obtain ⟨b', hb', rfl⟩ := List.mem_map.1 hm'
  exact then_congr_of_compare (ho.properties
    b (List.mem_of_mem_filter (List.mem_of_mem_filter hb))
    b' (List.mem_of_mem_filter (List.mem_of_mem_filter hb')))

theorem base?_respell (c : ClassId) : (r.respell ρ).base? c = (r.base? c).map (Base.rename ρ) := by
  rw [base?, members_respell h ho, base?, Option.map_map]
  rfl

theorem leaf?_respell (c : ClassId) : (r.respell ρ).leaf? c = r.leaf? c := by
  have hdiscriminator : (r.respell ρ).nameOf ((r.respell ρ).graph.iri c) =
      r.nameOf (r.graph.iri c) := h.scopedName_iri c
  rw [leaf?, base?_respell h ho, hdiscriminator, leaf?]
  cases r.base? c <;> rfl

theorem sortedValues_respell (c : ClassId) : (r.respell ρ).sortedValues c = r.sortedValues c := by
  have hname : ∀ v, (r.respell ρ).nameOf ((r.respell ρ).graph.value v).iri =
      r.nameOf (r.graph.value v).iri := h.scopedName_value
  refine sortWith_congr fun v hv w hw => ?_
  rw [hname, hname, value_respell h, value_respell h]
  exact then_congr_of_compare (ho.values c v hv w hw)

/-! ## Declarations -/

theorem nonTexts_respell (c : ClassId) : (r.respell ρ).nonTexts c = r.nonTexts c := by
  have hidentifier : (r.respell ρ).graph.identifier = r.graph.identifier :=
    funext h.identifier_respell
  have haliases : (r.respell ρ).graph.aliases c = r.graph.aliases c := h.aliases_respell c
  rw [nonTexts, leaf?_respell h ho, hidentifier, haliases, nonTexts]
  rfl

/-- All but the IRIs and the texts is as before. -/
theorem declaration_respell (c : ClassId) : (r.respell ρ).declaration c =
    { r.declaration c with
      iri := ρ (r.graph.iri c)
      base := (r.declaration c).base.map (Base.rename ρ)
      total := ((r.respell ρ).declaration c).total
      enumMembers := ((r.respell ρ).declaration c).enumMembers } := by
  have hkind : (r.respell ρ).graph.kind c = r.graph.kind c := r.graph.kind_respell ρ c
  have hparents : (r.graph.parents c).map
      (fun p => (r.respell ρ).nameOf ((r.respell ρ).graph.iri p)) =
        (r.graph.parents c).map fun p => r.nameOf (r.graph.iri p) :=
    List.map_congr_left fun p _ => h.scopedName_iri p
  refine (Declaration.mk.injEq ..).mpr ⟨r.graph.iri_respell ρ h.fixed c, h.scopedName_iri c,
    h.identifier_respell c, hkind, commentOf_respell h c, rfl,
    congrArg (sortWith compare) hparents, ?_, ?_, rfl, rfl⟩
  · show _ = Option.map (Base.rename ρ) (if _ then _ else _)
    rw [hkind, base?_respell h ho, apply_ite (Option.map (Base.rename ρ))]
    rfl
  · rw [hkind, leaf?_respell h ho]
    rfl

end

end Resolver

/-! ## Helpers and orders -/

/-- The helpers are those of the graph, as terms keep their names. -/
theorem Graph.KeepsNames.preamble_respell (h : g.KeepsNames ρ context)
    (hschema : ∀ a, (ρ a).schemaName? = a.schemaName?) :
    Preamble.ofGraph (g.respell ρ) context = Preamble.ofGraph g context := by
  have hterm : ∀ c name, ((g.respell ρ).iri c).isSchema name = (g.iri c).isSchema name := by
    intro c name
    rw [g.iri_respell ρ h.fixed, Iri.isSchema, hschema, Iri.isSchema]
  rw [Preamble.ofGraph, Graph.ids_respell, funext h.identifier_respell, Preamble.ofGraph]
  simp only [hterm, Graph.kind_respell]

/-- The classes of the respelt graph are declared in the order of the graph. -/
theorem Graph.KeepsNames.declarationsOf_respell {o : Options} (h : g.KeepsNames ρ o.context)
    (ho : g.KeepsOrder ρ o.context) (hg : g.InRange) :
    declarationsOf (g.respell ρ) o =
      (g.sortedIds.filter (Resolver.ofGraph g o.context o.includeDeprecated).visible).map
        ((Resolver.ofGraph g o.context o.includeDeprecated).respell ρ).declaration := by
  have hresolver : Resolver.ofGraph (g.respell ρ) o.context o.includeDeprecated =
      (Resolver.ofGraph g o.context o.includeDeprecated).respell ρ := by
    rw [Resolver.ofGraph, h.layout_respell ho hg]
    rfl
  rw [declarationsOf, hresolver, h.sortedIds_respell ho]
  rfl

end Ontotype

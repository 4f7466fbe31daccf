import Ontotype.Proofs.Assembly.Ways
import Ontotype.Proofs.Declaration.Keys
import Ontotype.Proofs.Declaration.References

set_option autoImplicit false

/-! # From properties to members

A property that the statements give to an ordinary class is bound to the class, makes it a class
with a base, and is a member of the base unless it is superseded and left out. Nothing gets lost on
the way, and nothing comes twice (`members_of_compile`). What a member ranges over is what the
statements say of its property: the classes that are named, and references by identity if one of
them is a node type. -/

namespace Ontotype

open Vocabulary

variable {edition : Edition} {ss : List Statement} {g : Graph} {context : Context}
  {includeDeprecated : Bool} {o : Options} {r : Compiled} {D : Declaration} {a : Iri} {c : ClassId}
  {p : PropertyId}

/-! ## Ranges -/

/-- A range in two parts. -/
structure RangeParts where
  /-- The identifiers of the classes that values belong to. -/
  names : List String
  /-- Whether a value may be given by its identity alone. -/
  byIdentity : Bool
  deriving DecidableEq, Repr

/-- A range, put together from its parts. -/
def RangeParts.types (t : RangeParts) : List TypeRef :=
  t.names.map .named ++ if t.byIdentity then [.idReference] else []

/-- The parts of the range of the property `a` are those that the statements give to it. -/
structure RangeParts.Said (edition : Edition) (ss : List Statement) (a : Iri) (t : RangeParts) :
    Prop where
  sorted : t.names.Pairwise (· < ·)
  names : ∀ n, n ∈ t.names ↔ ∃ b, Says ss a .rangeIncludes b ∧ b.identifier = n
  byIdentity : t.byIdentity = true ↔ ∃ b, Says ss a .rangeIncludes b ∧ IsNodeType edition ss b

/-- The parts of the range that the graph gives to a property. -/
def Graph.rangeParts (g : Graph) (p : PropertyId) : RangeParts :=
  { names := sortedSet ((g.property p).ranges.map g.identifier)
    byIdentity := (g.property p).ranges.any g.isNodeType }

theorem Graph.types_rangeParts (g : Graph) (p : PropertyId) :
    (g.rangeParts p).types = g.rangeType p := rfl

namespace Portrays

variable (hp : Portrays edition ss g)

include hp

theorem rangeParts_said (hread : Readable edition ss) (hlt : p < g.properties.length) :
    (g.rangeParts p).Said edition ss (g.property p).iri := by
  have hranges : ∀ {P : Iri → Prop}, (∃ d ∈ (g.property p).ranges, P (g.iri d)) ↔
      ∃ b, Says ss (g.property p).iri .rangeIncludes b ∧ P b := by
    intro P
    simp only [← hp.mem_iris_ranges hread hlt, List.mem_map, exists_exists_and_eq_and]
  have hids := hp.inRange.range _ (Graph.property_mem hlt)
  constructor
  case sorted => exact pairwise_sortedSet _
  case names =>
    intro n
    rw [Graph.rangeParts, mem_sortedSet, List.mem_map]
    exact hranges (P := fun b => b.identifier = n)
  case byIdentity =>
    rw [Graph.rangeParts, List.any_eq_true, ← hranges]
    exact exists_congr fun d => and_congr_right fun hd =>
      hp.isNodeType_iff_said (fun _ _ => known_of_saysBelow hread.classes) (hids d hd)

/-! ## Members -/

theorem range_of_mem_members (hread : Readable edition ss) {m : Member}
    (hm : m ∈ (Resolver.ofGraph g context includeDeprecated).members c) :
    ∃ t : RangeParts, t.Said edition ss m.iri ∧ m.range = t.types := by
  obtain ⟨b, hb, _, rfl⟩ := Resolver.mem_members_iff.1 hm
  have hlt := (hp.inRange.binding b (List.mem_of_mem_filter hb)).2
  exact ⟨g.rangeParts b.property, hp.rangeParts_said hread hlt, (g.types_rangeParts _).symm⟩

/-- Members are in the strict order of their keys, and of their IRIs where those are equal. -/
theorem pairwise_members (context : Context) (includeDeprecated : Bool) (c : ClassId) :
    ((Resolver.ofGraph g context includeDeprecated).members c).Pairwise fun m n =>
      m.key < n.key ∨ m.key = n.key ∧ m.iri.text < n.iri.text := by
  have hnodup := (hp.nodup_iris_members context includeDeprecated c).map fun _ _ => congrArg Iri.mk
  rw [List.map_map, Resolver.members] at hnodup
  exact pairwise_lt_sortWith (((sortWith_perm _ _).map _).nodup_iff.1 hnodup)

/-- An ordinary class that the statements give a property has a base. -/
theorem exists_base (context : Context) (includeDeprecated : Bool) (hc : c ∈ g.ids)
    (hkind : g.kind c = .ordinary) (hproperty : HasProperty ss (g.iri c)) :
    ∃ b, ((Resolver.ofGraph g context includeDeprecated).declaration c).base = some b := by
  obtain ⟨harises, hsettled⟩ := layout_arises hp.inRange
  obtain ⟨s, hs⟩ := Layout.settled_iff.1 (hsettled c hc)
  have hbase := harises.base?_of_bindings hp.inRange hs hkind
    ((hp.bindingsOf_ne_nil_iff hc).2 hproperty)
  obtain ⟨b, hb, _⟩ := Resolver.base_of_lookup context includeDeprecated hp.inRange hs hbase
  exact ⟨b, hb⟩

end Portrays

/-- **No property is lost, and none is listed twice.** The members of an ordinary class that is
    declared are the properties that the statements give to it and that are not left out; where
    there are any, also if all of them are left out, the class has a base. Members come in the
    strict order of their keys and IRIs, and range over what the statements say. -/
theorem members_of_compile (h : compile o ss = .ok r) (hD : D ∈ r.declarations)
    (hkind : D.kind = .ordinary) :
    (∀ a, (∃ b, D.base = some b ∧ a ∈ b.members.map Member.iri) ↔
      HasMember o.includeDeprecated ss D.iri a) ∧
    (HasProperty ss D.iri → ∃ b, D.base = some b) ∧
    ∀ b, D.base = some b → (b.members.map Member.iri).Nodup ∧
      (b.members.Pairwise fun m n => m.key < n.key ∨ m.key = n.key ∧ m.iri.text < n.iri.text) ∧
      ∀ m ∈ b.members, ∃ t : RangeParts,
        t.Said (editionOf (topicsOf ss)) ss m.iri ∧ m.range = t.types := by
  have hp := portrays_of_compile h
  rw [(compiled_of_compile h).2.1, mem_declarationsOf] at hD
  obtain ⟨c, hc, _, rfl⟩ := hD
  have hbase := hp.exists_base o.context o.includeDeprecated hc hkind
  have hmembers : ∀ {b}, ((Resolver.ofGraph r.graph o.context
      o.includeDeprecated).declaration c).base = some b →
      b.members = (Resolver.ofGraph r.graph o.context o.includeDeprecated).members c :=
    fun hb => (Resolver.base_spec (Resolver.base_of_declaration hb)).2.2
  refine ⟨fun a => ?_, hbase, fun b hb => ?_⟩
  · have hiris := hp.mem_iris_members o.context o.includeDeprecated hc a
    constructor
    · rintro ⟨b, hb, ha⟩
      exact hiris.1 (hmembers hb ▸ ha)
    · intro ha
      obtain ⟨b, hb⟩ := hbase ⟨a, ha.1, ha.2.1⟩
      exact ⟨b, hb, (hmembers hb).symm ▸ hiris.2 ha⟩
  · rw [hmembers hb]
    exact ⟨hp.nodup_iris_members _ _ c, hp.pairwise_members _ _ c,
      fun m hm => hp.range_of_mem_members (readable_of_compile h) hm⟩

/-- An ontology with a property that is superseded: a `Robot` has nothing but a `serial`, which is
    superseded by the `number` of a `Device`. A `Device` is also said, twice, to have an `owner`,
    which may be a `Device`, a `Text` or an `Agent`; an `Agent` is below `Text`. -/
def devicesStatements : List Statement :=
  let term := Edition.https.term
  [{ subject := term "Device", predicate := rdfType, object := .entity rdfsClass },
   { subject := term "Robot", predicate := rdfType, object := .entity rdfsClass },
   { subject := term "Agent", predicate := rdfsSubClassOf, object := .entity (term "Text") },
   { subject := term "serial", predicate := rdfType, object := .entity rdfProperty },
   { subject := term "serial", predicate := term "domainIncludes",
     object := .entity (term "Robot") },
   { subject := term "serial", predicate := term "supersededBy",
     object := .entity (term "number") },
   { subject := term "owner", predicate := rdfType, object := .entity rdfProperty },
   { subject := term "owner", predicate := term "domainIncludes",
     object := .entity (term "Device") },
   { subject := term "owner", predicate := term "domainIncludes",
     object := .compact "schema" "Device" },
   { subject := term "owner", predicate := term "rangeIncludes", object := .entity (term "Text") },
   { subject := term "owner", predicate := term "rangeIncludes",
     object := .entity (term "Device") },
   { subject := term "owner", predicate := term "rangeIncludes", object := .entity (term "Agent") },
   { subject := term "number", predicate := rdfType, object := .entity rdfProperty },
   { subject := term "number", predicate := term "domainIncludes",
     object := .entity (term "Device") }]

theorem members_devicesStatements :
    ∃ r, compile {} devicesStatements = .ok r ∧
      (∃ D ∈ r.declarations, D.iri = Edition.https.term "Device" ∧ ∃ b, D.base = some b ∧
        b.members.map Member.iri = [Edition.https.term "number", Edition.https.term "owner"] ∧
        (∀ a ∈ b.members.map Member.iri, HasMember false devicesStatements D.iri a) ∧
        ∀ m ∈ b.members, ∃ t : RangeParts,
          t.Said (editionOf (topicsOf devicesStatements)) devicesStatements m.iri ∧
            m.range = t.types) ∧
      ∃ D ∈ r.declarations, D.iri = Edition.https.term "Robot" ∧
        ∃ b, D.base = some b ∧ b.members = [] := by
  have hok : (compile {} devicesStatements).isOk = true := by decide +kernel
  obtain ⟨r, hr⟩ := isOk_iff.1 hok
  obtain ⟨hgraph, hdeclarations, _⟩ := compiled_of_compile hr
  rw [hgraph] at hdeclarations
  have hdevice : ∃ D ∈ r.declarations, D.kind = .ordinary ∧ D.iri = Edition.https.term "Device" ∧
      ∃ b ∈ D.base, b.members.map Member.iri =
        [Edition.https.term "number", Edition.https.term "owner"] := by
    rw [hdeclarations]
    decide +kernel
  have hrobot : ∃ D ∈ r.declarations, D.kind = .ordinary ∧ D.iri = Edition.https.term "Robot" ∧
      ∀ b ∈ D.base, b.members = [] := by
    rw [hdeclarations]
    decide +kernel
  have hproperty : HasProperty devicesStatements (Edition.https.term "Robot") := by
    refine ⟨Edition.https.term "serial", ?_, ?_⟩ <;> unfold Says <;> decide +kernel
  refine ⟨r, hr, ?_, ?_⟩
  · obtain ⟨D, hD, hkind, hiri, b, hb, hmembers⟩ := hdevice
    obtain ⟨hexact, _, hbase⟩ := members_of_compile hr hD hkind
    exact ⟨D, hD, hiri, b, hb, hmembers, fun a ha => (hexact a).1 ⟨b, hb, ha⟩, (hbase b hb).2.2⟩
  · obtain ⟨D, hD, hkind, hiri, hmembers⟩ := hrobot
    obtain ⟨b, hb⟩ := (members_of_compile hr hD hkind).2.1 (hiri ▸ hproperty)
    exact ⟨D, hD, hiri, b, hb, hmembers b hb⟩

end Ontotype

import Ontotype.Proofs.Assembly.Transcript
import Ontotype.Proofs.Assembly.Ways
import Ontotype.Proofs.Declaration.References
import Ontotype.Proofs.Declaration.Values

set_option autoImplicit false

/-! # From statements to total types

The total type of a class comes in four parts: the texts that stand for its enumeration values, its
leaf, the classes below it, and the types that it is another name of. Each part is sorted, and each
is told by the statements alone, but for the names of the bases that a class inherits, which are a
matter of the layout (`total_of_compile`). What is listed of the enumeration values goes with the
texts. The union of the builtin classes has none; it lists those classes. -/

namespace Ontotype

open Vocabulary

variable {edition : Edition} {ss : List Statement} {g : Graph} {context : Context}
  {includeDeprecated : Bool} {o : Options} {r : Compiled} {D : Declaration} {c d : ClassId}
  {n x : String}

/-! ## Parts -/

/-- A total type in four parts. -/
structure TotalParts where
  /-- The texts that stand for enumeration values. -/
  texts : List String
  /-- The name of the leaf. -/
  leaf : Option String
  /-- The identifiers of the classes below. -/
  children : List String
  /-- The types that the class is another name of. -/
  aliases : List TypeRef

/-- A total type, put together from its parts. -/
def TotalParts.types (t : TotalParts) : List TypeRef :=
  t.texts.map .literal ++ t.leaf.toList.map .named ++ t.children.map .named ++ t.aliases

/-- The names of the bases that the class with the IRI `a` inherits. -/
def Compiled.inherited (r : Compiled) (a : Iri) : List String :=
  ((r.graph.find? a).map fun c => (r.graph.layout.shape c).inherited).getD []

/-- The class `a` is not left out as superseded. -/
def Included (includeDeprecated : Bool) (ss : List Statement) (a : Iri) : Prop :=
  includeDeprecated = true ∨ ∀ s ∈ ss, s.subject = a → s.kind ≠ .supersededBy

/-- The parts of the total type of `D` are those that the statements give to its class. To be below
    `rdfs:Class` makes a subject a class, and no class below another one. -/
structure TotalParts.Said (o : Options) (ss : List Statement) (r : Compiled) (D : Declaration)
    (t : TotalParts) : Prop where
  texts_sorted : t.texts.Pairwise (· < ·)
  texts : ∀ x, x ∈ t.texts ↔ ∃ a, IsValueOf ss a D.iri ∧ Spells o.context a x
  leaf_declared : t.leaf = D.leaf.map Leaf.name
  leaf : ∀ n, t.leaf = some n ↔ n = D.ident ++ "Leaf" ∧
    (IsNodeType (editionOf (topicsOf ss)) ss D.iri ∨ r.inherited D.iri ≠ [])
  children_sorted : t.children.Pairwise (· < ·)
  children : ∀ n, n ∈ t.children ↔ ∃ b, Says ss b .subClassOf D.iri ∧ D.iri ≠ rdfsClass ∧
    Included o.includeDeprecated ss b ∧ b.identifier = n
  aliases_sorted : t.aliases.Pairwise fun s s' => s.key < s'.key
  aliases : ∀ s, s ∈ t.aliases ↔ ∃ a, Relation.ReflTransGen (SaysBelow ss) D.iri a ∧
    s ∈ (declaredEntry (editionOf (topicsOf ss)) ss a).aliases
  primitive : ∀ s ∈ t.aliases, ∃ p, s = .primitive p

/-- Where a class is another name of primitive types only, the texts of its total type are those of
    its values. -/
theorem TotalParts.literal_mem_types {t : TotalParts} (h : ∀ s ∈ t.aliases, ∃ p, s = .primitive p) :
    .literal x ∈ t.types ↔ x ∈ t.texts := by
  have haliases : .literal x ∉ t.aliases := by
    intro hx
    obtain ⟨p, hp⟩ := h _ hx
    exact absurd hp (by simp)
  simp [types, haliases]

/-- The parts of the total type of a class. -/
def Resolver.totalParts (r : Resolver) (c : ClassId) : TotalParts :=
  { texts := sortedSet ((r.graph.valuesOf c).flatMap r.spellings)
    leaf := (r.leaf? c).map Leaf.name
    children := sortedSet (((r.graph.children c).filter r.visible).map r.graph.identifier)
    aliases := r.graph.aliases c }

theorem Resolver.types_totalParts (r : Resolver) (c : ClassId) :
    (r.totalParts c).types = r.totalOfClass c := by
  rw [TotalParts.types, totalParts, totalOfClass]
  cases r.leaf? c <;> rfl

/-! ## Leaves -/

namespace Resolver

/-- A class has a leaf if it is a node type, or inherits a base. -/
theorem name_leaf?_iff (context : Context) (includeDeprecated : Bool) (hg : g.InRange)
    (hc : c ∈ g.ids) : ((ofGraph g context includeDeprecated).leaf? c).map Leaf.name = some n ↔
      n = g.identifier c ++ "Leaf" ∧
        (g.isNodeType c = true ∨ (g.layout.shape c).inherited ≠ []) := by
  obtain ⟨harises, hsettled⟩ := layout_arises hg
  obtain ⟨s, hs⟩ := Layout.settled_iff.1 (hsettled c hc)
  obtain ⟨_, hident, hnode, _⟩ := harises.shape_of_class hs
  have hshape : g.layout.shape c = s := Layout.shape_of_lookup hs
  have hname : ((ofGraph g context includeDeprecated).leaf? c).map Leaf.name = s.leaf? := by
    rw [leaf?, Option.map_map, show (ofGraph g context includeDeprecated).layout.shape c = s
      from hshape]
    exact Option.map_id'
  have hcondition : (g.isNodeType c || !s.inherited.isEmpty) = true ↔
      g.isNodeType c = true ∨ s.inherited ≠ [] := by simp
  rw [hname, hshape, Shape.leaf?, hident, hnode]
  split
  · next hleaf => rw [Option.some.injEq, eq_comm, and_iff_left (hcondition.1 hleaf)]
  · next hleaf => exact iff_of_false (by simp) fun hn => hleaf (hcondition.2 hn.2)

end Resolver

/-! ## Classes below -/

namespace Portrays

variable (hp : Portrays edition ss g) (hread : Readable edition ss)

include hp hread

/-- A subject that describes a class is deprecated if it is superseded by anything. -/
theorem isDeprecated_iff (hc : c ∈ g.ids) (hclass : DescribesClass ss (g.iri c)) :
    g.isDeprecated c = true ↔ ∃ s ∈ ss, s.subject = g.iri c ∧ s.kind = .supersededBy := by
  have hsuccessors := (hp.classTranscript hread hc).successors
  rw [Graph.isDeprecated, Bool.not_eq_true', ← Bool.not_eq_true, List.isEmpty_iff]
  constructor
  · intro hne
    obtain ⟨d, hd⟩ := List.exists_mem_of_ne_nil _ hne
    obtain ⟨_, s, hs, hsubject, hkind, _⟩ := (hsuccessors _).1 (List.mem_map_of_mem hd)
    exact ⟨s, hs, hsubject, hkind⟩
  · rintro ⟨s, hs, hsubject, hkind⟩
    -- the statement can be read, so its object names a class
    obtain ⟨b, hobject, _⟩ := (hread.classes s hs (hsubject ▸ hclass)).2 (Or.inr hkind)
    have hb := (hsuccessors b).2 ⟨hclass, s, hs, hsubject, hkind, hobject⟩
    obtain ⟨d, hd, _⟩ := List.mem_map.1 hb
    exact List.ne_nil_of_mem hd

theorem visible_iff (hc : c ∈ g.ids) (hclass : DescribesClass ss (g.iri c)) :
    (Resolver.ofGraph g context includeDeprecated).visible c = true ↔
      Included includeDeprecated ss (g.iri c) := by
  rw [Resolver.visible, Bool.or_eq_true, Bool.not_eq_true', ← Bool.not_eq_true]
  refine or_congr_right ((not_congr (hp.isDeprecated_iff hread hc hclass)).trans ?_)
  simp only [not_exists, not_and]

/-- The classes that are listed below a class are those that are said to be below it, and are
    included. -/
theorem exists_child_iff (hc : c ∈ g.ids) : (∃ d ∈ g.children c,
      (Resolver.ofGraph g context includeDeprecated).visible d = true ∧ g.identifier d = n) ↔
    ∃ b, SaysBelow ss b (g.iri c) ∧ Included includeDeprecated ss b ∧ b.identifier = n := by
  constructor
  · rintro ⟨d, hd, hvisible, rfl⟩
    have hbelow : g.Below d c := Graph.mem_parents_iff_mem_children.2 hd
    have hdids := (hp.inRange.mem_ids_of_below hbelow).1
    have hsays := (hp.below d hdids c hc).1 hbelow
    exact ⟨g.iri d, hsays, (hp.visible_iff hread hdids hsays.describesClass).1 hvisible, rfl⟩
  · rintro ⟨b, hsays, hincluded, rfl⟩
    have hclass := hsays.describesClass
    obtain ⟨d, hd, rfl⟩ := Graph.mem_classIris.1 ((hp.mem_classIris b).2 (Or.inr hclass))
    have hbelow := (hp.below d hd c hc).2 hsays
    exact ⟨d, Graph.mem_parents_iff_mem_children.1 hbelow,
      (hp.visible_iff hread hd hclass).2 hincluded, rfl⟩

end Portrays

/-! ## Total types -/

/-- The parts of the total type of a class are what the statements say. -/
theorem totalParts_said (h : compile o ss = .ok r) (hc : c ∈ r.graph.ids)
    (hkind : r.graph.kind c ≠ .dataTypeUnion) :
    ((Resolver.ofGraph r.graph o.context o.includeDeprecated).totalParts c).Said o ss r
      ((Resolver.ofGraph r.graph o.context o.includeDeprecated).declaration c) := by
  have hp := portrays_of_compile h
  have hread := readable_of_compile h
  have hknown : ∀ a b, SaysBelow ss a b → KnownClass (editionOf (topicsOf ss)) ss b :=
    fun _ _ => known_of_saysBelow hread.classes
  have hiri : ((Resolver.ofGraph r.graph o.context o.includeDeprecated).declaration c).iri =
      r.graph.iri c := rfl
  constructor
  case texts_sorted => exact pairwise_sortedSet _
  case texts =>
    intro x
    rw [Resolver.totalParts, mem_sortedSet, List.mem_flatMap, hiri]
    exact hp.exists_spelling_iff hc
  case leaf_declared => rw [Resolver.leaf_of_class hkind, Resolver.totalParts]
  case leaf =>
    intro n
    have hinherited : r.inherited (r.graph.iri c) = (r.graph.layout.shape c).inherited := by
      rw [Compiled.inherited, Graph.find?_iri hp.nodup_classIris hc]
      rfl
    rw [Resolver.totalParts, Resolver.name_leaf?_iff _ _ hp.inRange hc, hiri, hinherited,
      hp.isNodeType_iff_said hknown hc]
    rfl
  case children_sorted => exact pairwise_sortedSet _
  case children =>
    intro n
    rw [Resolver.totalParts, mem_sortedSet, List.mem_map, hiri]
    simp only [List.mem_filter, and_assoc]
    refine (hp.exists_child_iff hread hc).trans (exists_congr fun b => ?_)
    rw [saysBelow_iff, and_assoc]
  case aliases_sorted => exact TypeRef.pairwise_sortedSet _
  case aliases => exact fun s => hp.mem_aliases_iff_said hknown hc s
  case primitive =>
    exact fun s => Graph.exists_primitive_of_mem_aliases hp.inRange hc hp.aliases_primitive

/-- The alternatives of the union are the builtin classes. -/
theorem Portrays.exists_unionMember_iff (hp : Portrays edition ss g) (hc : c ∈ g.ids)
    (hkind : g.kind c = .dataTypeUnion) : (∃ d ∈ g.unionMembers c, g.identifier d = n) ↔
      ∃ a, KnownClass edition ss a ∧ (declaredEntry edition ss a).kind = .builtin ∧
        a.identifier = n := by
  constructor
  · rintro ⟨d, hd, rfl⟩
    have hids := (hp.inRange.unionMember (c, d) (Link.mem_targets.1 hd)).2
    have hbuiltin := ((hp.unionMember c hc d hids).1 hd).2
    exact ⟨g.iri d, (hp.mem_classIris _).1 (Graph.mem_classIris.2 ⟨d, hids, rfl⟩),
      hp.kind d hids ▸ hbuiltin, rfl⟩
  · rintro ⟨a, ha, hbuiltin, rfl⟩
    obtain ⟨d, hids, rfl⟩ := Graph.mem_classIris.1 ((hp.mem_classIris a).2 ha)
    exact ⟨d, (hp.unionMember c hc d hids).2 ⟨hkind, (hp.kind d hids).trans hbuiltin⟩, rfl⟩

/-- **A total type is what the statements say.** That of a class is put together from its parts;
    the union lists the builtin classes. The enumeration values that are listed are the subjects
    that are declared to be so, each once, and the texts that are listed with them are those of the
    total type. -/
theorem total_of_compile (h : compile o ss = .ok r) (hD : D ∈ r.declarations) :
    (D.kind ≠ .dataTypeUnion → ∃ t : TotalParts, t.Said o ss r D ∧ D.total = t.types) ∧
    (D.kind = .dataTypeUnion → ∃ names : List String, names.Pairwise (· < ·) ∧
      (∀ n, n ∈ names ↔ ∃ a, KnownClass (editionOf (topicsOf ss)) ss a ∧
        (declaredEntry (editionOf (topicsOf ss)) ss a).kind = .builtin ∧ a.identifier = n) ∧
      D.total = names.map .named) ∧
    (D.enumMembers.map EnumMember.iri).Nodup ∧
    (∀ a, a ∈ D.enumMembers.map EnumMember.iri ↔ IsValueOf ss a D.iri) ∧
    ∀ x, .literal x ∈ D.total ↔ ∃ m ∈ D.enumMembers, x ∈ m.literals := by
  have hp := portrays_of_compile h
  rw [(compiled_of_compile h).2.1, mem_declarationsOf] at hD
  obtain ⟨c, hc, _, rfl⟩ := hD
  refine ⟨fun hkind => ?_, fun hkind => ?_, hp.nodup_iris_enumMembers _ _ c,
    hp.mem_iris_enumMembers _ _ hc, fun x => ?_⟩
  · exact ⟨_, totalParts_said h hc hkind,
      (Resolver.total_of_class hkind).trans (Resolver.types_totalParts _ c).symm⟩
  · refine ⟨_, pairwise_sortedSet _, fun n => ?_, Resolver.total_of_union hkind⟩
    rw [mem_sortedSet, List.mem_map]
    exact hp.exists_unionMember_iff hc hkind
  · by_cases hkind : r.graph.kind c = .dataTypeUnion
    · -- the union has neither values nor texts
      have hvalues : ((Resolver.ofGraph r.graph o.context
          o.includeDeprecated).declaration c).enumMembers = [] := by
        show Resolver.enumMembers _ c = []
        rw [Resolver.enumMembers, show (Resolver.ofGraph r.graph o.context
          o.includeDeprecated).graph.valuesOf c = [] from hp.valuesOf_of_union hc hkind]
        rfl
      rw [Resolver.total_of_union hkind, Resolver.totalOfUnion, hvalues]
      simp
    · have hsaid := totalParts_said h hc hkind
      rw [Resolver.total_of_class hkind, ← Resolver.types_totalParts,
        TotalParts.literal_mem_types hsaid.primitive, hsaid.texts]
      exact (hp.exists_spelling_iff hc).symm.trans (Resolver.exists_literal_iff
        (r := Resolver.ofGraph r.graph o.context o.includeDeprecated)).symm

/-- An ontology of the `http:` edition. `Weekday` is below `Thing`, which has a property, and below
    `Text`. Below `Weekday` are `Workday`, and `Restday`, which is superseded. `Monday` is declared,
    twice, to be a `Weekday`. -/
def weekdaysStatements : List Statement :=
  let term := Edition.http.term
  [{ subject := term "Thing", predicate := rdfType, object := .entity rdfsClass },
   { subject := term "Weekday", predicate := rdfsSubClassOf, object := .entity (term "Thing") },
   { subject := term "Weekday", predicate := rdfsSubClassOf, object := .entity (term "Text") },
   { subject := term "Workday", predicate := rdfsSubClassOf, object := .entity (term "Weekday") },
   { subject := term "Restday", predicate := rdfsSubClassOf, object := .entity (term "Weekday") },
   { subject := term "Restday", predicate := term "supersededBy",
     object := .entity (term "Workday") },
   { subject := term "Monday", predicate := rdfType, object := .entity (term "Weekday") },
   { subject := term "Monday", predicate := rdfType, object := .entity (term "Weekday") },
   { subject := term "label", predicate := rdfType, object := .entity rdfProperty },
   { subject := term "label", predicate := term "domainIncludes",
     object := .entity (term "Thing") }]

theorem total_weekdaysStatements :
    ∃ r, compile {} weekdaysStatements = .ok r ∧
      (∃ D ∈ r.declarations, D.iri = Edition.http.term "Weekday" ∧
        D.total = ["Monday", "http://schema.org/Monday", "https://schema.org/Monday"].map .literal ++
          [.named "WeekdayLeaf", .named "Workday", .primitive .string] ∧
        (∃ t : TotalParts, t.Said {} weekdaysStatements r D ∧ D.total = t.types) ∧
        D.enumMembers.map EnumMember.iri = [Edition.http.term "Monday"] ∧
        IsValueOf weekdaysStatements (Edition.http.term "Monday") D.iri) ∧
      ∃ D ∈ r.declarations, D.iri = Edition.http.term "DataType" ∧
        ∃ names : List String, names.Pairwise (· < ·) ∧ "Text" ∈ names ∧
          D.total = names.map .named := by
  have hok : (compile {} weekdaysStatements).isOk = true := by decide +kernel
  obtain ⟨r, hr⟩ := isOk_iff.1 hok
  obtain ⟨hgraph, hdeclarations, _⟩ := compiled_of_compile hr
  rw [hgraph] at hdeclarations
  have hweekday : ∃ D ∈ r.declarations, D.kind = .ordinary ∧
      D.iri = Edition.http.term "Weekday" ∧
      D.total = ["Monday", "http://schema.org/Monday", "https://schema.org/Monday"].map .literal ++
        [.named "WeekdayLeaf", .named "Workday", .primitive .string] ∧
      D.enumMembers.map EnumMember.iri = [Edition.http.term "Monday"] := by
    rw [hdeclarations]
    decide +kernel
  have hunion : ∃ D ∈ r.declarations, D.kind = .dataTypeUnion ∧
      D.iri = Edition.http.term "DataType" ∧ .named "Text" ∈ D.total := by
    rw [hdeclarations]
    decide +kernel
  refine ⟨r, hr, ?_, ?_⟩
  · obtain ⟨D, hD, hkind, hiri, htotal, hvalues⟩ := hweekday
    obtain ⟨hclass, _, _, hmember, _⟩ := total_of_compile hr hD
    exact ⟨D, hD, hiri, htotal, hclass (by rw [hkind]; decide), hvalues,
      (hmember _).1 (by rw [hvalues]; exact List.mem_singleton_self _)⟩
  · obtain ⟨D, hD, hkind, hiri, htext⟩ := hunion
    obtain ⟨names, hsorted, _, htotal⟩ := (total_of_compile hr hD).2.1 hkind
    refine ⟨D, hD, hiri, names, hsorted, ?_, htotal⟩
    rwa [htotal, List.mem_map_of_injective fun _ _ => TypeRef.named.inj] at htext

end Ontotype

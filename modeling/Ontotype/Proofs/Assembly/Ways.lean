import Ontotype.Proofs.Compile

set_option autoImplicit false

/-! # The hierarchy of the statements

A step to a superclass that is said is a step of the graph, so ways up are the same in both
(`Portrays.above_iff`). What a class inherits can then be told from the statements alone: whether it
is a node type (`Portrays.isNodeType_iff_said`), and the types that it is another name of
(`Portrays.mem_aliases_iff_said`). -/

namespace Ontotype

open Vocabulary

variable {edition : Edition} {ss : List Statement} {g : Graph} {a b : Iri} {c d : ClassId}

/-! ## What is said -/

/-- The statements give the class a property. -/
def HasProperty (ss : List Statement) (a : Iri) : Prop :=
  ∃ p, Says ss p .type rdfProperty ∧ Says ss p .domainIncludes a

/-- Whether the superclass `b` decides if the class `a` is a node type. -/
def SaysDecidedBy (edition : Edition) (ss : List Statement) (a b : Iri) : Prop :=
  (declaredEntry edition ss a).kind = .ordinary ∧ ¬ HasProperty ss a ∧ SaysBelow ss a b

/-- The class is a node type: no way up from it, through ordinary classes without properties, leads
    to a class that is not ordinary. -/
def IsNodeType (edition : Edition) (ss : List Statement) (a : Iri) : Prop :=
  ∀ b, Relation.ReflTransGen (SaysDecidedBy edition ss) a b →
    (declaredEntry edition ss b).kind = .ordinary

/-! ## Ways -/

/-- A class that has properties decides for itself that it is a node type. -/
theorem isNodeType_of_hasProperty (hkind : (declaredEntry edition ss a).kind = .ordinary)
    (h : HasProperty ss a) : IsNodeType edition ss a := by
  intro b hway
  rcases Relation.ReflTransGen.cases_head hway with rfl | ⟨c, hc, _⟩
  · exact hkind
  · exact absurd h hc.2.1

/-- A way up that decides whether a class is a node type is a way up. -/
theorem above_of_decided (h : Relation.ReflTransGen (SaysDecidedBy edition ss) a b) :
    Relation.ReflTransGen (SaysBelow ss) a b :=
  Relation.ReflTransGen.mono (fun _ _ hstep => hstep.2.2) a b h

/-- Ways between IRIs that start at a class are ways between classes, if their steps are. -/
theorem Graph.way_iff {R : ClassId → ClassId → Prop} {S : Iri → Iri → Prop}
    (hR : ∀ {c d}, R c d → d ∈ g.ids) (hS : ∀ {a b}, S a b → b ∈ g.classIris)
    (hstep : ∀ c ∈ g.ids, ∀ d ∈ g.ids, R c d ↔ S (g.iri c) (g.iri d)) (hc : c ∈ g.ids) :
    Relation.ReflTransGen S (g.iri c) a ↔
      ∃ d ∈ g.ids, Relation.ReflTransGen R c d ∧ g.iri d = a := by
  constructor
  · intro hway
    induction hway with
    | refl => exact ⟨c, hc, .refl, rfl⟩
    | tail _ hb ih =>
        obtain ⟨d, hd, hway, rfl⟩ := ih
        -- the step leads to a class that is known, so there is a number for it
        obtain ⟨d', hd', rfl⟩ := Graph.mem_classIris.1 (hS hb)
        exact ⟨d', hd', hway.tail ((hstep d hd d' hd').2 hb), rfl⟩
  · rintro ⟨d, -, hway, rfl⟩
    have hall : d ∈ g.ids ∧ Relation.ReflTransGen S (g.iri c) (g.iri d) := by
      induction hway with
      | refl => exact ⟨hc, .refl⟩
      | tail _ hd ih => exact ⟨hR hd, ih.2.tail ((hstep _ ih.1 _ (hR hd)).1 hd)⟩
    exact hall.2

namespace Portrays

variable (hp : Portrays edition ss g)

include hp

theorem bindingsOf_ne_nil_iff (hc : c ∈ g.ids) :
    g.bindingsOf c ≠ [] ↔ HasProperty ss (g.iri c) := by
  constructor
  · intro hne
    obtain ⟨b, hb⟩ := List.exists_mem_of_ne_nil _ hne
    obtain ⟨hb, howner⟩ := List.mem_filter.1 hb
    have hlt := (hp.inRange.binding b hb).2
    refine ⟨(g.property b.property).iri, ?_, ?_⟩
    · exact (hp.mem_propertyIris _).1 (Graph.mem_propertyIris.2 ⟨_, hlt, rfl⟩)
    · exact (hp.bound c hc _ hlt).1 ⟨b, hb, of_decide_eq_true howner, rfl⟩
  · rintro ⟨p, hproperty, hdomain⟩
    obtain ⟨p, hlt, rfl⟩ := Graph.mem_propertyIris.1 ((hp.mem_propertyIris _).2 hproperty)
    obtain ⟨b, hb, howner, _⟩ := (hp.bound c hc p hlt).2 hdomain
    exact List.ne_nil_of_mem (List.mem_filter.2 ⟨hb, decide_eq_true howner⟩)

theorem decidedBy_iff (hc : c ∈ g.ids) (hd : d ∈ g.ids) :
    g.DecidedBy c d ↔ SaysDecidedBy edition ss (g.iri c) (g.iri d) := by
  rw [Graph.DecidedBy, SaysDecidedBy, hp.kind c hc, hp.below c hc d hd,
    ← hp.bindingsOf_ne_nil_iff hc, not_not]

variable (hknown : ∀ a b, SaysBelow ss a b → KnownClass edition ss b)

include hknown

theorem above_iff (hc : c ∈ g.ids) : Relation.ReflTransGen (SaysBelow ss) (g.iri c) a ↔
    ∃ d ∈ g.ids, g.Above c d ∧ g.iri d = a :=
  Graph.way_iff (fun h => (hp.inRange.mem_ids_of_below h).2)
    (fun h => (hp.mem_classIris _).2 (hknown _ _ h)) (fun c hc d hd => hp.below c hc d hd) hc

theorem isNodeType_iff_said (hc : c ∈ g.ids) :
    g.isNodeType c = true ↔ IsNodeType edition ss (g.iri c) := by
  have hway : ∀ b, Relation.ReflTransGen (SaysDecidedBy edition ss) (g.iri c) b ↔
      ∃ d ∈ g.ids, Relation.ReflTransGen g.DecidedBy c d ∧ g.iri d = b := fun b =>
    Graph.way_iff (fun h => (hp.inRange.mem_ids_of_below h.2.2).2)
      (fun h => (hp.mem_classIris _).2 (hknown _ _ h.2.2))
      (fun c hc d hd => hp.decidedBy_iff hc hd) hc
  rw [Graph.isNodeType_iff hp.inRange hc, IsNodeType]
  constructor
  · intro hall b hb
    obtain ⟨d, hd, hway, rfl⟩ := (hway b).1 hb
    exact (hp.kind d hd).symm.trans (hall d hway)
  · intro hall d hd
    have hids : d ∈ g.ids := by
      rcases Relation.ReflTransGen.cases_tail hd with rfl | ⟨_, _, hstep⟩
      · exact hc
      · exact (hp.inRange.mem_ids_of_below hstep.2.2).2
    exact (hp.kind d hids).trans (hall _ ((hway _).2 ⟨d, hids, hd, rfl⟩))

theorem mem_aliases_iff_said (hc : c ∈ g.ids) (t : TypeRef) : t ∈ g.aliases c ↔
    ∃ a, Relation.ReflTransGen (SaysBelow ss) (g.iri c) a ∧
      t ∈ (declaredEntry edition ss a).aliases := by
  rw [Graph.mem_aliases hp.inRange hc]
  constructor
  · rintro ⟨d, hd, ht⟩
    have hids := hp.inRange.mem_ids_of_above hc hd
    exact ⟨g.iri d, (hp.above_iff hknown hc).2 ⟨d, hids, hd, rfl⟩, hp.aliases d hids ▸ ht⟩
  · rintro ⟨a, ha, ht⟩
    obtain ⟨d, hids, hd, rfl⟩ := (hp.above_iff hknown hc).1 ha
    exact ⟨d, hd, hp.aliases d hids ▸ ht⟩

end Portrays

end Ontotype

import Ontotype.Graph.Basic
import Mathlib.Data.List.Nodup
import Mathlib.Logic.Relation

set_option autoImplicit false

/-! # The class hierarchy as a relation

A class stands *below* its superclasses, and *above* it are all classes that a chain of superclass
links leads to. The relation may run in circles. What is proved of a graph takes for granted at
most that the numbers in it are numbers of things in its tables (`Graph.InRange`), and that two of
its classes are not declared under one identifier (`Graph.DistinctIdentifiers`). -/

namespace Ontotype.Graph

/-! ## Well-formed graphs -/

@[simp] theorem mem_ids {g : Graph} {c : ClassId} : c ∈ g.ids ↔ c < g.size := List.mem_range

theorem nodup_ids (g : Graph) : g.ids.Nodup := List.nodup_range

/-- Every number in the graph is the number of something in the tables of the graph. -/
structure InRange (g : Graph) : Prop where
  superclass : ∀ l ∈ g.superclass.pairs, l.1 ∈ g.ids ∧ l.2 ∈ g.ids
  successor : ∀ l ∈ g.successor.pairs, l.1 ∈ g.ids ∧ l.2 ∈ g.ids
  unionMember : ∀ l ∈ g.unionMember.pairs, l.1 ∈ g.ids ∧ l.2 ∈ g.ids
  range : ∀ p ∈ g.properties, ∀ c ∈ p.ranges, c ∈ g.ids
  binding : ∀ b ∈ g.bindings, b.owner ∈ g.ids ∧ b.property < g.properties.length
  membership : ∀ l ∈ g.membership.pairs, l.1 ∈ g.ids ∧ l.2 < g.values.length

/-- No two classes are declared under one identifier. -/
def DistinctIdentifiers (g : Graph) : Prop := (g.ids.map g.identifier).Nodup

theorem DistinctIdentifiers.eq_of_identifier_eq {g : Graph} (h : g.DistinctIdentifiers)
    {c d : ClassId} (hc : c ∈ g.ids) (hd : d ∈ g.ids) (heq : g.identifier c = g.identifier d) :
    c = d :=
  List.inj_on_of_nodup_map h hc hd heq

/-! ## Superclasses -/

/-- The class `p` is a superclass of `c`. -/
def Below (g : Graph) (c p : ClassId) : Prop := p ∈ g.parents c

/-- The class `a` is `c`, or a class above it. -/
def Above (g : Graph) : ClassId → ClassId → Prop := Relation.ReflTransGen g.Below

/-- No class is above itself. -/
def Acyclic (g : Graph) : Prop := ∀ c, ¬ Relation.TransGen g.Below c c

theorem InRange.mem_ids_of_below {g : Graph} (h : g.InRange) {c p : ClassId} (hb : g.Below c p) :
    c ∈ g.ids ∧ p ∈ g.ids :=
  h.superclass (c, p) (Link.mem_targets.1 hb)

theorem InRange.mem_ids_of_above {g : Graph} (h : g.InRange) {c a : ClassId} (hc : c ∈ g.ids)
    (ha : g.Above c a) : a ∈ g.ids := by
  induction ha with
  | refl => exact hc
  | tail _ hb _ => exact (h.mem_ids_of_below hb).2

theorem nodup_parents (g : Graph) (c : ClassId) : (g.parents c).Nodup :=
  g.superclass.nodup_targets c

theorem Acyclic.not_above_of_below {g : Graph} (h : g.Acyclic) {c p : ClassId} (hb : g.Below c p) :
    ¬ g.Above p c :=
  fun ha => h c (Relation.TransGen.head' hb ha)

/-- A graph in which every class has a greater number than its superclasses is acyclic. -/
theorem acyclic_of_decreasing {g : Graph} (h : ∀ l ∈ g.superclass.pairs, l.2 < l.1) :
    g.Acyclic := by
  have hlt : ∀ c a, Relation.TransGen g.Below c a → a < c := by
    intro c a hca
    induction hca with
    | single hb => exact h (_, _) (Link.mem_targets.1 hb)
    | tail _ hb ih => exact Nat.lt_trans (h (_, _) (Link.mem_targets.1 hb)) ih
  exact fun c hc => Nat.lt_irrefl c (hlt c c hc)

end Ontotype.Graph

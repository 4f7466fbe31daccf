import Ontotype.Proofs.Graph.Search

set_option autoImplicit false

/-! # Which classes are node types

Only ordinary classes are node types. One that has properties is; one that has none is if all its
superclasses are. Where superclasses run in a circle this does not say which classes are node types
in so many words, but it has a greatest solution, and that is the one that counts: a class is a
node type unless a way up, through ordinary classes without properties, leads to a class that is
not ordinary (`isNodeType_exact`). -/

namespace Ontotype

variable {g : Graph} {f : ClassId → Bool} {a c : ClassId}

namespace Graph

/-- The conditions on node types hold of the classes that `f` accepts. -/
def SolvesNodeTypes (g : Graph) (f : ClassId → Bool) : Prop :=
  ∀ c ∈ g.ids, f c = true ↔
    g.kind c = .ordinary ∧ (g.bindingsOf c ≠ [] ∨ ∀ p, g.Below c p → f p = true)

/-- A way up that keeps a class from being a node type. -/
def Spoiled (g : Graph) (c : ClassId) : Prop :=
  ∃ a, Relation.ReflTransGen g.DecidedBy c a ∧ g.kind a ≠ .ordinary

theorem isNodeType_eq_false_iff (hg : g.InRange) (hc : c ∈ g.ids) :
    g.isNodeType c = false ↔ g.Spoiled c := by
  rw [← Bool.not_eq_true, isNodeType_iff hg hc, Spoiled]
  push Not
  rfl

/-- A class is spoiled by itself, or by a superclass that it has nothing to set against. -/
theorem spoiled_iff : g.Spoiled c ↔
    g.kind c = .ordinary → g.bindingsOf c = [] ∧ ∃ p, g.Below c p ∧ g.Spoiled p := by
  constructor
  · rintro ⟨a, hway, ha⟩ hkind
    rcases Relation.ReflTransGen.cases_head hway with rfl | ⟨p, hp, hway⟩
    · exact absurd hkind ha
    · exact ⟨hp.2.1, p, hp.2.2, a, hway, ha⟩
  · intro h
    by_cases hkind : g.kind c = .ordinary
    · obtain ⟨hbound, p, hp, a, hway, ha⟩ := h hkind
      exact ⟨a, hway.head ⟨hkind, hbound, hp⟩, ha⟩
    · exact ⟨c, .refl, hkind⟩

theorem solvesNodeTypes_isNodeType (hg : g.InRange) : g.SolvesNodeTypes g.isNodeType := by
  intro c hc
  have hparents : (∃ p, g.Below c p ∧ g.Spoiled p) ↔
      ¬ ∀ p, g.Below c p → g.isNodeType p = true := by
    push Not
    refine exists_congr fun p => and_congr_right fun hp => ?_
    rw [← isNodeType_eq_false_iff hg (hg.mem_ids_of_below hp).2, ne_eq, Bool.not_eq_true]
  rw [← Bool.not_eq_false, isNodeType_eq_false_iff hg hc, spoiled_iff, hparents]
  tauto

/-- A class that a solution takes for a node type has nothing but such classes on the ways up that
    decide about it, so none of these leads to a class that is not ordinary. -/
theorem SolvesNodeTypes.eq_true_of_decided (hf : g.SolvesNodeTypes f) (hg : g.InRange)
    (hc : c ∈ g.ids) (hfc : f c = true) (hway : Relation.ReflTransGen g.DecidedBy c a) :
    a ∈ g.ids ∧ f a = true := by
  induction hway with
  | refl => exact ⟨hc, hfc⟩
  | tail _ hb ih =>
      obtain ⟨hkind, hbound, hbelow⟩ := hb
      have hparents := (((hf _ ih.1).1 ih.2).2).resolve_left (not_not_intro hbound)
      exact ⟨(hg.mem_ids_of_below hbelow).2, hparents _ hbelow⟩

theorem SolvesNodeTypes.le_isNodeType (hf : g.SolvesNodeTypes f) (hg : g.InRange) (hc : c ∈ g.ids)
    (hfc : f c = true) : g.isNodeType c = true := by
  refine (isNodeType_iff hg hc).2 fun a hway => ?_
  obtain ⟨ha, hfa⟩ := hf.eq_true_of_decided hg hc hfc hway
  exact ((hf a ha).1 hfa).1

end Graph

/-- **Which classes are node types**, in graphs with circles and without. A class is none exactly if
    a way up from it, through ordinary classes without properties, leads to a class that is not
    ordinary. So node types are the greatest solution of the conditions on them. The search that
    stops at the first class that is not ordinary comes to the same, in whatever order it visits
    superclasses. -/
theorem isNodeType_exact (hg : g.InRange) :
    (∀ c ∈ g.ids, g.isNodeType c = false ↔
      ∃ a, Relation.ReflTransGen g.DecidedBy c a ∧ g.kind a ≠ .ordinary) ∧
    (g.SolvesNodeTypes g.isNodeType ∧
      ∀ f, g.SolvesNodeTypes f → ∀ c ∈ g.ids, f c = true → g.isNodeType c = true) ∧
    ∀ parents, (∀ c, (parents c).Perm (g.parents c)) → ∀ budget, g.size < budget →
      ∀ c ∈ g.ids, ∃ es, { g.valueSearch with next := parents }.run budget [] [] c =
        some (!g.isNodeType c, es) := by
  refine ⟨fun c hc => Graph.isNodeType_eq_false_iff hg hc,
    ⟨Graph.solvesNodeTypes_isNodeType hg, fun f hf c hc hfc => hf.le_isNodeType hg hc hfc⟩,
    fun parents hparents budget hbudget c hc => ?_⟩
  obtain ⟨es, hrun, _⟩ := Graph.run_valueSearch hg hparents hbudget hc
  exact ⟨es, hrun⟩

/-- `Text` is another name of a primitive type. `Code` and `Label` are below each other, and `Label`
    is below `Text` too; `Note` is below `Code`, and has a property; `Echo` is below itself. -/
def codesGraph : Graph :=
  { classes := ClassEntry.builtin ⟨"https://schema.org/Text"⟩ (.primitive .string) ::
      ["Code", "Label", "Note", "Echo"].map fun name =>
        .ofKind ⟨"https://schema.org/" ++ name⟩ .ordinary
    superclass := [(1, 2), (2, 1), (2, 0), (3, 1), (4, 4)].foldl (fun l p => l.add p.1 p.2) .empty
    properties := [{ iri := ⟨"https://schema.org/length"⟩ }]
    bindings := [{ owner := 3, property := 0, key := ⟨"https://schema.org/length"⟩ }] }

theorem isNodeType_exact_codesGraph :
    codesGraph.ids.map codesGraph.isNodeType = [false, false, false, true, true] ∧
    (∃ a, Relation.ReflTransGen codesGraph.DecidedBy 1 a ∧ codesGraph.kind a ≠ .ordinary) ∧
    (∀ f, codesGraph.SolvesNodeTypes f → f 1 = false) ∧
    ∀ c ∈ codesGraph.ids, ∃ es,
      { codesGraph.valueSearch with next := fun c => (codesGraph.parents c).reverse }.run 6 [] [] c =
        some (!codesGraph.isNodeType c, es) := by
  have hg : codesGraph.InRange := ⟨by decide, by decide, by decide, by decide, by decide, by decide⟩
  obtain ⟨hspoiled, ⟨_, hgreatest⟩, hsearch⟩ := isNodeType_exact hg
  refine ⟨by decide, (hspoiled 1 (by decide)).1 (by decide), fun f hf => ?_, ?_⟩
  · have hle := hgreatest f hf 1 (by decide)
    rw [← Bool.not_eq_true]
    exact fun hf1 => absurd (hle hf1) (by decide)
  · exact hsearch _ (fun c => List.reverse_perm _) 6 (by decide)

end Ontotype

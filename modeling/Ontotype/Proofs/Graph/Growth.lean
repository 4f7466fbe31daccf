import Ontotype.Proofs.Graph.Order
import Ontotype.Proofs.Graph.Settling

set_option autoImplicit false

/-! # A new class at the bottom

A graph *grows* by a class that stands below one of its classes and has nothing below it. What is
above a class decides whether it is a node type, which types it is another name of and, as long as
the superclasses do not run in a circle, how it is laid out. So the classes that were there before
keep all of this, and they keep their order. -/

namespace Ontotype

variable {g : Graph} {e : ClassEntry} {a b c d : ClassId} {l : Layout} {s : Shape}

/-! ## Links -/

namespace Link

theorem targets_add_of_ne (l : Link) {a a' : Nat} (b : Nat) (h : a' ≠ a) :
    (l.add a b).targets a' = l.targets a' := by
  rw [add]
  split
  · rfl
  · simp [targets, List.filter_append, h.symm]

theorem sources_add_of_ne (l : Link) (a : Nat) {b b' : Nat} (h : b' ≠ b) :
    (l.add a b).sources b' = l.sources b' := by
  rw [add]
  split
  · rfl
  · simp [sources, List.filter_append, h.symm]

theorem sources_add_self {l : Link} {a b : Nat} (h : (a, b) ∉ l.pairs) :
    (l.add a b).sources b = l.sources b ++ [a] := by
  simp [add, h, sources, List.filter_append]

end Link

/-! ## Layouts of acyclic graphs -/

/-- Where no class is above itself, a class is settled after its superclasses, so its shape is the
    one that it would have if it were settled last. -/
theorem Layout.Arises.eq_shapeAfter (h : Arises g l) (hacyclic : g.Acyclic)
    (hd : l.lookup d = some s) :
    s = g.shapeAfter l d ∧ ∀ p, g.Below d p → l.settled p = true := by
  induction h with
  | empty => exact absurd hd (by simp)
  | @settle l c _ _ new parents ih =>
      -- superclasses that are settled pass on the same when one more class is settled
      have hkeep : ∀ d, (∀ p, g.Below d p → l.settled p = true) →
          g.shapeAfter (l ++ [(c, g.shapeAfter l c)]) d = g.shapeAfter l d ∧
            ∀ p, g.Below d p → Layout.settled (l ++ [(c, g.shapeAfter l c)]) p = true := by
        intro d hparents
        have hgrows := extends_append (s := g.shapeAfter l c) new
        refine ⟨?_, fun p hp => hgrows.settled (hparents p hp)⟩
        have hsame : (g.parents d).flatMap (Layout.references (l ++ [(c, g.shapeAfter l c)])) =
            (g.parents d).flatMap l.references := by
          refine List.flatMap_congr fun p hp => ?_
          obtain ⟨t, ht⟩ := settled_iff.1 (hparents p hp)
          rw [references_of_lookup ht, references_of_lookup (hgrows p t ht)]
        rw [Graph.shapeAfter, hsame, Graph.shapeAfter]
      rcases (lookup_append_iff new).1 hd with hd | ⟨rfl, rfl⟩
      · obtain ⟨hs, hparents⟩ := ih hd
        exact ⟨hs.trans (hkeep d hparents).1.symm, (hkeep d hparents).2⟩
      · have hparents : ∀ p, g.Below d p → l.settled p = true := fun p hp =>
          (parents p hp).resolve_right (hacyclic.not_above_of_below hp)
        exact ⟨(hkeep d hparents).1.symm, (hkeep d hparents).2⟩

/-! ## Growing -/

namespace Graph

/-- The graph with one more class, which stands below `c`. -/
def grow (g : Graph) (e : ClassEntry) (c : ClassId) : Graph :=
  { g with classes := g.classes ++ [e], superclass := g.superclass.add g.size c }

theorem size_not_mem_ids (g : Graph) : g.size ∉ g.ids := fun h => Nat.lt_irrefl _ (mem_ids.1 h)

theorem ne_size_of_mem (h : d ∈ g.ids) : d ≠ g.size := fun heq => g.size_not_mem_ids (heq ▸ h)

theorem ids_grow (g : Graph) (e : ClassEntry) (c : ClassId) :
    (g.grow e c).ids = g.ids ++ [g.size] := by
  rw [ids, size, grow, List.length_append, List.length_singleton, List.range_succ]
  rfl

theorem mem_ids_grow : d ∈ (g.grow e c).ids ↔ d ∈ g.ids ∨ d = g.size := by
  rw [ids_grow, List.mem_append, List.mem_singleton]

theorem entry_grow_of_mem (e : ClassEntry) (c : ClassId) (h : d ∈ g.ids) :
    (g.grow e c).entry d = g.entry d := by
  rw [entry, entry, grow, List.getElem?_append_left (mem_ids.1 h)]

theorem entry_grow_size (g : Graph) (e : ClassEntry) (c : ClassId) :
    (g.grow e c).entry g.size = e := by
  simp [entry, grow, size]

theorem iri_grow_of_mem (e : ClassEntry) (c : ClassId) (h : d ∈ g.ids) :
    (g.grow e c).iri d = g.iri d := by
  rw [iri, entry_grow_of_mem e c h, iri]

theorem kind_grow_of_mem (e : ClassEntry) (c : ClassId) (h : d ∈ g.ids) :
    (g.grow e c).kind d = g.kind d := by
  rw [kind, entry_grow_of_mem e c h, kind]

theorem identifier_grow_of_mem (e : ClassEntry) (c : ClassId) (h : d ∈ g.ids) :
    (g.grow e c).identifier d = g.identifier d := by
  rw [identifier, iri_grow_of_mem e c h, identifier]

theorem identifier_grow_size (g : Graph) (e : ClassEntry) (c : ClassId) :
    (g.grow e c).identifier g.size = e.iri.identifier := by
  rw [identifier, iri, entry_grow_size]

theorem parents_grow_of_mem (e : ClassEntry) (c : ClassId) (h : d ∈ g.ids) :
    (g.grow e c).parents d = g.parents d :=
  g.superclass.targets_add_of_ne c (ne_size_of_mem h)

theorem children_grow_of_ne (e : ClassEntry) (h : d ≠ c) :
    (g.grow e c).children d = g.children d :=
  g.superclass.sources_add_of_ne g.size h

theorem below_grow_iff : (g.grow e c).Below a b ↔ g.Below a b ∨ a = g.size ∧ b = c := by
  rw [Below, parents, Link.mem_targets, grow, Link.mem_pairs_add, Prod.mk.injEq, Below, parents,
    Link.mem_targets]

section

variable (hg : g.InRange)

include hg

theorem not_mem_superclass_size (c : ClassId) : (g.size, c) ∉ g.superclass.pairs := fun h =>
  g.size_not_mem_ids (hg.superclass _ h).1

/-- The new class is the last of the children. -/
theorem children_grow_self (e : ClassEntry) (c : ClassId) :
    (g.grow e c).children c = g.children c ++ [g.size] :=
  Link.sources_add_self (not_mem_superclass_size hg c)

theorem successors_size : g.successors g.size = [] := by
  refine List.eq_nil_iff_forall_not_mem.2 fun a ha => ?_
  exact g.size_not_mem_ids (hg.successor _ (Link.mem_targets.1 ha)).1

variable (hc : c ∈ g.ids)

include hc

theorem inRange_grow (e : ClassEntry) : (g.grow e c).InRange where
  superclass l hl := by
      rw [mem_ids_grow, mem_ids_grow]
      rcases Link.mem_pairs_add.1 hl with hl | rfl
      · exact (hg.superclass l hl).imp Or.inl Or.inl
      · exact ⟨Or.inr rfl, Or.inl hc⟩
  successor l hl := by
      rw [mem_ids_grow, mem_ids_grow]
      exact (hg.successor l hl).imp Or.inl Or.inl
  unionMember l hl := by
      rw [mem_ids_grow, mem_ids_grow]
      exact (hg.unionMember l hl).imp Or.inl Or.inl
  range p hp d hd := mem_ids_grow.2 (Or.inl (hg.range p hp d hd))
  binding b hb := (hg.binding b hb).imp (fun h => mem_ids_grow.2 (Or.inl h)) id
  membership l hl := (hg.membership l hl).imp (fun h => mem_ids_grow.2 (Or.inl h)) id

/-- Nothing is below the new class, so no way leads back to it. -/
theorem acyclic_grow (hacyclic : g.Acyclic) (e : ClassEntry) : (g.grow e c).Acyclic := by
  -- a way up that starts at a class from before stays among them
  have hold : ∀ a b, Relation.TransGen (g.grow e c).Below a b → a ∈ g.ids →
      Relation.TransGen g.Below a b ∧ b ∈ g.ids := by
    intro a b hab ha
    induction hab with
    | single h =>
        have h := (below_grow_iff.1 h).resolve_right fun h => ne_size_of_mem ha h.1
        exact ⟨.single h, (hg.mem_ids_of_below h).2⟩
    | tail _ h ih =>
        have h := (below_grow_iff.1 h).resolve_right fun h => ne_size_of_mem ih.2 h.1
        exact ⟨.tail ih.1 h, (hg.mem_ids_of_below h).2⟩
  intro a haa
  obtain ⟨b, -, hb⟩ := Relation.TransGen.tail'_iff.1 haa
  rcases below_grow_iff.1 hb with hb | ⟨_, rfl⟩
  · have ha := (hg.mem_ids_of_below hb).2
    exact hacyclic a (hold a a haa ha).1
  · exact hacyclic a (hold a a haa hc).1

end

/-! ## What is above -/

/-- A relation that agrees with another one on a set that it does not lead out of leads from the set
    to the same things. -/
theorem reflTransGen_iff_of_closed {R R' : ClassId → ClassId → Prop} {P : ClassId → Prop}
    (hsame : ∀ a b, P a → (R' a b ↔ R a b)) (hclosed : ∀ a b, R a b → P b) (hd : P d) :
    Relation.ReflTransGen R' d a ↔ Relation.ReflTransGen R d a := by
  constructor
  · intro h
    suffices hboth : Relation.ReflTransGen R d a ∧ P a from hboth.1
    induction h with
    | refl => exact ⟨.refl, hd⟩
    | tail _ hb ih =>
        have hb := (hsame _ _ ih.2).1 hb
        exact ⟨ih.1.tail hb, hclosed _ _ hb⟩
  · intro h
    suffices hboth : Relation.ReflTransGen R' d a ∧ P a from hboth.1
    induction h with
    | refl => exact ⟨.refl, hd⟩
    | tail _ hb ih => exact ⟨ih.1.tail ((hsame _ _ ih.2).2 hb), hclosed _ _ hb⟩

theorem above_of_decided (h : Relation.ReflTransGen g.DecidedBy d a) : g.Above d a := by
  induction h with
  | refl => exact .refl
  | tail _ hb ih => exact ih.tail hb.2.2

theorem below_grow_of_mem (ha : a ∈ g.ids) : (g.grow e c).Below a b ↔ g.Below a b :=
  below_grow_iff.trans (or_iff_left fun h => ne_size_of_mem ha h.1)

theorem above_grow_iff (hg : g.InRange) (hd : d ∈ g.ids) :
    (g.grow e c).Above d a ↔ g.Above d a :=
  reflTransGen_iff_of_closed (P := (· ∈ g.ids)) (fun _ _ ha => below_grow_of_mem ha)
    (fun _ _ h => (hg.mem_ids_of_below h).2) hd

section

variable (hg : g.InRange) (hc : c ∈ g.ids) (hd : d ∈ g.ids)

include hg hc hd

theorem isNodeType_grow (e : ClassEntry) : (g.grow e c).isNodeType d = g.isNodeType d := by
  have hdecided : ∀ a, Relation.ReflTransGen (g.grow e c).DecidedBy d a ↔
      Relation.ReflTransGen g.DecidedBy d a := fun a =>
    reflTransGen_iff_of_closed (P := (· ∈ g.ids))
      (fun x y hx => by
        rw [DecidedBy, DecidedBy, kind_grow_of_mem e c hx, below_grow_of_mem hx]
        rfl)
      (fun _ _ h => (hg.mem_ids_of_below h.2.2).2) hd
  rw [Bool.eq_iff_iff, isNodeType_iff (inRange_grow hg hc e) (mem_ids_grow.2 (Or.inl hd)),
    isNodeType_iff hg hd]
  refine forall_congr' fun a => ?_
  rw [hdecided a]
  refine imp_congr_right fun ha => ?_
  have hmem : a ∈ g.ids := hg.mem_ids_of_above hd (above_of_decided ha)
  rw [kind_grow_of_mem e c hmem]

theorem aliases_grow (e : ClassEntry) : (g.grow e c).aliases d = g.aliases d := by
  refine TypeRef.sortedSet_congr fun t => ?_
  rw [List.mem_flatMap, List.mem_flatMap]
  refine exists_congr fun a => ?_
  rw [mem_ancestors (inRange_grow hg hc e) (mem_ids_grow.2 (Or.inl hd)), mem_ancestors hg hd,
    above_grow_iff hg hd]
  refine and_congr_right fun ha => ?_
  rw [entry_grow_of_mem e c (hg.mem_ids_of_above hd ha)]

end

theorem ranges_mem_ids (hg : g.InRange) (p : PropertyId) (hd : d ∈ (g.property p).ranges) :
    d ∈ g.ids := by
  rw [property] at hd
  cases hp : g.properties[p]? with
  | none =>
      rw [hp] at hd
      exact absurd hd List.not_mem_nil
  | some entry =>
      rw [hp] at hd
      exact hg.range entry (List.mem_of_getElem? hp) d hd

theorem rangeType_grow (hg : g.InRange) (hc : c ∈ g.ids) (e : ClassEntry) (p : PropertyId) :
    (g.grow e c).rangeType p = g.rangeType p := by
  have hmem : ∀ d ∈ (g.property p).ranges, d ∈ g.ids := fun d => ranges_mem_ids hg p
  have hidentifiers : (g.property p).ranges.map (g.grow e c).identifier =
      (g.property p).ranges.map g.identifier :=
    List.map_congr_left fun d hd => identifier_grow_of_mem e c (hmem d hd)
  have hnode : (g.property p).ranges.any (g.grow e c).isNodeType =
      (g.property p).ranges.any g.isNodeType := by
    rw [Bool.eq_iff_iff, List.any_eq_true, List.any_eq_true]
    refine exists_congr fun d => and_congr_right fun hd => ?_
    rw [isNodeType_grow hg hc (hmem d hd) e]
  show (sortedSet ((g.property p).ranges.map (g.grow e c).identifier)).map TypeRef.named ++
    (if (g.property p).ranges.any (g.grow e c).isNodeType then _ else _) = _
  rw [hidentifiers, hnode]
  rfl

/-! ## The layout -/

/-- The layout of the grown graph has all shapes of the layout before. -/
theorem layout_grow (hg : g.InRange) (hacyclic : g.Acyclic) (hc : c ∈ g.ids) (e : ClassEntry) :
    Layout.Extends g.layout (g.grow e c).layout := by
  obtain ⟨harises, hall⟩ := layout_arises (inRange_grow hg hc e)
  have hgrown := acyclic_grow hg hc hacyclic e
  suffices h : ∀ l, Layout.Arises g l → Layout.Extends l (g.grow e c).layout from
    h _ (layout_arises hg).1
  intro l hl
  induction hl with
  | empty => exact fun d s hd => absurd hd (by simp)
  | @settle l d _ known new parents ih =>
      intro d' s hs
      rcases (Layout.lookup_append_iff new).1 hs with hs | ⟨rfl, rfl⟩
      · exact ih d' s hs
      · obtain ⟨t, ht⟩ := Layout.settled_iff.1 (hall d' (mem_ids_grow.2 (Or.inl known)))
        rw [ht, (harises.eq_shapeAfter hgrown ht).1]
        -- the superclasses were settled before, and pass on what they do in the grown graph
        have hpassed : (g.parents d').flatMap (g.grow e c).layout.references =
            (g.parents d').flatMap l.references := by
          refine List.flatMap_congr fun p hp => ?_
          obtain ⟨u, hu⟩ := Layout.settled_iff.1
            ((parents p hp).resolve_right (hacyclic.not_above_of_below hp))
          rw [Layout.references_of_lookup hu, Layout.references_of_lookup (ih p u hu)]
        rw [shapeAfter, parents_grow_of_mem e c known, hpassed, identifier_grow_of_mem e c known,
          isNodeType_grow hg hc known e]
        rfl

theorem shape_layout_grow (hg : g.InRange) (hacyclic : g.Acyclic) (hc : c ∈ g.ids)
    (e : ClassEntry) (hd : d ∈ g.ids) : (g.grow e c).layout.shape d = g.layout.shape d := by
  obtain ⟨s, hs⟩ := Layout.settled_iff.1 ((layout_arises hg).2 d hd)
  rw [Layout.shape_of_lookup hs,
    Layout.shape_of_lookup (layout_grow hg hacyclic hc e d s hs)]

/-! ## The order -/

instance : Std.TransCmp fun x y : Place × ClassId => x.1.compare y.1 where
  eq_swap {x y} := by
      show x.1.compare y.1 = (y.1.compare x.1).swap
      exact Std.OrientedCmp.eq_swap
  isLE_trans {x y z} hxy hyz := by
      show (x.1.compare z.1).isLE
      exact Std.TransCmp.isLE_trans hxy hyz

/-- The classes from before keep their order. -/
theorem filter_sortedIds_grow (g : Graph) (e : ClassEntry) (c : ClassId) :
    (g.grow e c).sortedIds.filter (· ≠ g.size) = g.sortedIds := by
  have hplace : ∀ d ∈ g.ids, (g.grow e c).place d = g.place d := fun d hd => by
    rw [place, kind_grow_of_mem e c hd, iri_grow_of_mem e c hd, place]
  have hids : (g.grow e c).ids.filter (· ≠ g.size) = g.ids := by
    rw [ids_grow, List.filter_append, List.filter_eq_self.2 fun d hd => by
      simpa using ne_size_of_mem hd]
    simp
  rw [sortedIds, List.filter_map, filter_sortWith, List.filter_map]
  show (sortWith _ (((g.grow e c).ids.filter (· ≠ g.size)).map _)).map _ = _
  have hplaces : g.ids.map (fun d => ((g.grow e c).place d, d)) =
      g.ids.map fun d => (g.place d, d) :=
    List.map_congr_left fun d hd => by rw [hplace d hd]
  rw [hids, hplaces, sortedIds]

/-- The new class has its place among the others. -/
theorem sortedIds_grow (g : Graph) (e : ClassEntry) (c : ClassId) :
    ∃ before after, (g.grow e c).sortedIds = before ++ g.size :: after ∧
      g.sortedIds = before ++ after := by
  have hmem : g.size ∈ (g.grow e c).sortedIds :=
    (sortedIds_perm _).mem_iff.2 (mem_ids_grow.2 (Or.inr rfl))
  obtain ⟨before, after, hsplit⟩ := List.append_of_mem hmem
  have hnodup : (before ++ g.size :: after).Nodup :=
    hsplit ▸ (sortedIds_perm _).nodup_iff.2 (nodup_ids _)
  have hnew : g.size ∉ before ++ after :=
    (List.nodup_cons.1 (List.perm_middle.nodup_iff.1 hnodup)).1
  refine ⟨before, after, hsplit, ?_⟩
  rw [← filter_sortedIds_grow g e c, hsplit, List.filter_append, List.filter_cons_of_neg (by simp),
    ← List.filter_append, List.filter_eq_self]
  intro d hd
  exact decide_eq_true fun heq => hnew (heq ▸ hd)

end Graph

end Ontotype

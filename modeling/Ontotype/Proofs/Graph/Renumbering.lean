import Ontotype.Proofs.Graph.Settling
import Ontotype.Proofs.Graph.Tables
import Mathlib.Data.List.Forall2

set_option autoImplicit false

/-! # Hierarchies that differ in their numbers only

Two graphs may number the same classes in different orders. What is read off the class hierarchy
does not depend on that, and on circles neither: the walk that settles classes visits them, and the
superclasses of each, in the order of their identifiers, so that two walks through the same
hierarchy run in step, however its classes are numbered (`SameHierarchy.layout_agrees`). So the IRIs
of classes determine the layout (`layout_determined_by_iris`). -/

namespace Ontotype

/-- The class `c` of `g` and the class `c'` of `h` have one IRI. -/
def SameClass (g h : Graph) (c c' : ClassId) : Prop :=
  c ∈ g.ids ∧ c' ∈ h.ids ∧ g.iri c = h.iri c'

/-- The graphs have the same classes, in whatever order, and agree on the superclasses of each, on
    its kind, and on whether it has properties. -/
structure SameHierarchy (g h : Graph) : Prop where
  inRange_left : g.InRange
  inRange_right : h.InRange
  nodup_left : g.classIris.Nodup
  nodup_right : h.classIris.Nodup
  classes : ∀ a, a ∈ g.classIris ↔ a ∈ h.classIris
  kind : ∀ c c', SameClass g h c c' → g.kind c = h.kind c'
  bound : ∀ c c', SameClass g h c c' → (g.bindingsOf c = [] ↔ h.bindingsOf c' = [])
  below : ∀ c c' d d', SameClass g h c c' → SameClass g h d d' → (g.Below c d ↔ h.Below c' d')

variable {g h : Graph} {c c' d d' : ClassId}

theorem SameClass.symm (hc : SameClass g h c c') : SameClass h g c' c :=
  ⟨hc.2.1, hc.1, hc.2.2.symm⟩

theorem SameClass.identifier (hc : SameClass g h c c') : g.identifier c = h.identifier c' := by
  unfold Graph.identifier
  rw [hc.2.2]

/-- A way whose steps can all be taken in another graph can be taken there. -/
theorem exists_way {R S : ClassId → ClassId → Prop} {a : ClassId}
    (hstep : ∀ c c' d, SameClass g h c c' → R c d → ∃ d', SameClass g h d d' ∧ S c' d')
    (hc : SameClass g h c c') (hway : Relation.ReflTransGen R c a) :
    ∃ a', SameClass g h a a' ∧ Relation.ReflTransGen S c' a' := by
  induction hway with
  | refl => exact ⟨c', hc, Relation.ReflTransGen.refl⟩
  | tail _ hR ih =>
      obtain ⟨b', hb, hway'⟩ := ih
      obtain ⟨d', hd, hS⟩ := hstep _ _ _ hb hR
      exact ⟨d', hd, hway'.tail hS⟩

namespace SameHierarchy

theorem symm (hgh : SameHierarchy g h) : SameHierarchy h g where
  inRange_left := hgh.inRange_right
  inRange_right := hgh.inRange_left
  nodup_left := hgh.nodup_right
  nodup_right := hgh.nodup_left
  classes a := (hgh.classes a).symm
  kind c c' hc := (hgh.kind c' c hc.symm).symm
  bound c c' hc := (hgh.bound c' c hc.symm).symm
  below c c' d d' hc hd := (hgh.below c' c d' d hc.symm hd.symm).symm

variable (hgh : SameHierarchy g h)

include hgh

/-! ## The same classes -/

theorem exists_right (hc : c ∈ g.ids) : ∃ c', SameClass g h c c' := by
  obtain ⟨c', hc', hiri⟩ :=
    Graph.mem_classIris.1 ((hgh.classes _).1 (Graph.iri_mem_classIris hc))
  exact ⟨c', hc, hc', hiri.symm⟩

theorem biUnique : Relator.BiUnique (SameClass g h) := by
  refine ⟨fun c d c' hc hd => ?_, fun c c' d' hc hd => ?_⟩
  · exact Graph.eq_of_iri_eq hgh.nodup_left hc.1 hd.1 (hc.2.2.trans hd.2.2.symm)
  · exact Graph.eq_of_iri_eq hgh.nodup_right hc.2.1 hd.2.1 (hc.2.2.symm.trans hd.2.2)

theorem size_eq : g.size = h.size := by
  have hperm := (List.perm_ext_iff_of_nodup hgh.nodup_left hgh.nodup_right).2 hgh.classes
  rw [Graph.size_eq, Graph.size_eq, hperm.length_eq]

/-- Two selections of the same classes, in whatever order. -/
theorem perm_iris {cs cs' : List ClassId} (hcs : ∀ c ∈ cs, c ∈ g.ids) (hcs' : ∀ c ∈ cs', c ∈ h.ids)
    (hnodup : cs.Nodup) (hnodup' : cs'.Nodup)
    (hmem : ∀ c c', SameClass g h c c' → (c ∈ cs ↔ c' ∈ cs')) :
    (cs.map g.iri).Perm (cs'.map h.iri) := by
  have hleft : (cs.map g.iri).Nodup := hnodup.map_on fun c hc d hd =>
    Graph.eq_of_iri_eq hgh.nodup_left (hcs c hc) (hcs d hd)
  have hright : (cs'.map h.iri).Nodup := hnodup'.map_on fun c hc d hd =>
    Graph.eq_of_iri_eq hgh.nodup_right (hcs' c hc) (hcs' d hd)
  refine (List.perm_ext_iff_of_nodup hleft hright).2 fun a => ?_
  rw [List.mem_map, List.mem_map]
  constructor
  · rintro ⟨c, hc, rfl⟩
    obtain ⟨c', hsame⟩ := hgh.exists_right (hcs c hc)
    exact ⟨c', (hmem c c' hsame).1 hc, hsame.2.2.symm⟩
  · rintro ⟨c', hc', rfl⟩
    obtain ⟨c, hsame⟩ := hgh.symm.exists_right (hcs' c' hc')
    exact ⟨c, (hmem c c' hsame.symm).2 hc', hsame.2.2.symm⟩

/-! ## Ways up the hierarchy -/

theorem exists_above_right (hc : SameClass g h c c') (hcd : g.Below c d) :
    ∃ d', SameClass g h d d' ∧ h.Below c' d' := by
  obtain ⟨d', hd⟩ := hgh.exists_right (hgh.inRange_left.mem_ids_of_below hcd).2
  exact ⟨d', hd, (hgh.below c c' d d' hc hd).1 hcd⟩

theorem exists_ancestor_right {a : ClassId} (hc : SameClass g h c c') (ha : g.Above c a) :
    ∃ a', SameClass g h a a' ∧ h.Above c' a' :=
  exists_way (fun _ _ _ hc hcd => hgh.exists_above_right hc hcd) hc ha

theorem isNodeType_of_right (hc : SameClass g h c c') (hnode : h.isNodeType c' = true) :
    g.isNodeType c = true := by
  rw [Graph.isNodeType_iff hgh.inRange_left hc.1]
  rw [Graph.isNodeType_iff hgh.inRange_right hc.2.1] at hnode
  intro a ha
  obtain ⟨a', hsame, ha'⟩ := exists_way (S := h.DecidedBy) (fun x x' y hx hxy => by
    obtain ⟨hkind, hbound, hbelow⟩ := hxy
    obtain ⟨y', hy, hbelow'⟩ := hgh.exists_above_right hx hbelow
    exact ⟨y', hy, (hgh.kind x x' hx).symm.trans hkind, (hgh.bound x x' hx).1 hbound, hbelow'⟩)
    hc ha
  rw [hgh.kind a a' hsame]
  exact hnode a' ha'

theorem isNodeType_eq (hc : SameClass g h c c') : g.isNodeType c = h.isNodeType c' :=
  Bool.eq_iff_iff.2 ⟨hgh.symm.isNodeType_of_right hc.symm, hgh.isNodeType_of_right hc⟩

end SameHierarchy

/-! ## Classes in the order of their identifiers -/

/-- Compares two IRIs by the identifiers made from them, and by their texts where those are
    equal. -/
def Iri.compareIdentifiers : Iri → Iri → Ordering :=
  compareLex (compareOn Iri.identifier) (compareOn Iri.text)

instance : Std.TransCmp Iri.compareIdentifiers :=
  inferInstanceAs (Std.TransCmp (compareLex (compareOn Iri.identifier) (compareOn Iri.text)))

theorem Iri.eq_of_compareIdentifiers {a b : Iri} (hab : compareIdentifiers a b = .eq) : a = b := by
  rw [compareIdentifiers, compareLex, Ordering.then_eq_eq] at hab
  have htext : a.text = b.text := Std.LawfulEqOrd.eq_of_compare hab.2
  rw [← Iri.mk.injEq] at htext
  exact htext

theorem map_iri_byIdentifier (g : Graph) (cs : List ClassId) :
    (g.byIdentifier cs).map g.iri = sortWith Iri.compareIdentifiers (cs.map g.iri) := by
  have hsort := map_sortWith (fun c => (g.identifier c, (g.iri c).text, c))
    (fun c d => (g.iri c).compareIdentifiers (g.iri d))
    (compareLex (compareOn fun x => x.1) (compareOn fun x => x.2.1)) (fun _ _ => rfl) cs
  rw [Graph.byIdentifier, ← hsort, List.map_map, List.map_map]
  exact map_sortWith _ _ _ (fun _ _ => rfl) cs

theorem forall₂_sameClass {cs cs' : List ClassId} (hcs : ∀ c ∈ cs, c ∈ g.ids)
    (hcs' : ∀ c ∈ cs', c ∈ h.ids) (hiris : cs.map g.iri = cs'.map h.iri) :
    List.Forall₂ (SameClass g h) cs cs' := by
  rw [← List.forall₂_eq_eq_eq, List.forall₂_map_left_iff, List.forall₂_map_right_iff] at hiris
  induction hiris with
  | nil => exact .nil
  | @cons c c' cs cs' hiri _ ih =>
      refine .cons ⟨hcs c List.mem_cons_self, hcs' c' List.mem_cons_self, hiri⟩ (ih ?_ ?_)
      · exact fun d hd => hcs d (List.mem_cons_of_mem c hd)
      · exact fun d hd => hcs' d (List.mem_cons_of_mem c' hd)

/-- Two selections of the same classes are in the same order when they are in the order of their
    identifiers. -/
theorem forall₂_byIdentifier {cs cs' : List ClassId} (hcs : ∀ c ∈ cs, c ∈ g.ids)
    (hcs' : ∀ c ∈ cs', c ∈ h.ids) (hperm : (cs.map g.iri).Perm (cs'.map h.iri)) :
    List.Forall₂ (SameClass g h) (g.byIdentifier cs) (h.byIdentifier cs') := by
  refine forall₂_sameClass (fun c hc => hcs c (mem_byIdentifier.1 hc))
    (fun c hc => hcs' c (mem_byIdentifier.1 hc)) ?_
  rw [map_iri_byIdentifier, map_iri_byIdentifier]
  exact sortWith_eq_of_perm (fun a _ b _ hab => Iri.eq_of_compareIdentifiers hab) hperm

/-! ## The layout -/

/-- The layouts settle the same classes in the same order, and give them the same shapes. -/
def LayoutsAgree (g h : Graph) : Layout → Layout → Prop :=
  List.Forall₂ fun x y => SameClass g h x.1 y.1 ∧ x.2 = y.2

namespace SameHierarchy

variable {l l' : Layout}

variable (hgh : SameHierarchy g h)

include hgh

theorem lookup_eq (hl : LayoutsAgree g h l l') (hc : SameClass g h c c') :
    l.lookup c = l'.lookup c' := by
  induction hl with
  | nil => rfl
  | @cons x y xs ys hxy _ ih =>
      obtain ⟨a, s⟩ := x
      obtain ⟨a', s'⟩ := y
      obtain ⟨hsame, rfl⟩ := hxy
      -- the entries are about corresponding classes, so both are met or neither is
      have hiff : (c == a) = (c' == a') := by
        rw [Bool.eq_iff_iff, beq_iff_eq, beq_iff_eq]
        constructor
        · rintro rfl
          exact hgh.biUnique.2 hc hsame
        · rintro rfl
          exact hgh.biUnique.1 hc hsame
      rw [List.lookup_cons, List.lookup_cons, ih, hiff]

theorem references_eq (hl : LayoutsAgree g h l l') (hc : SameClass g h c c') :
    l.references c = l'.references c' := by
  unfold Layout.references
  rw [hgh.lookup_eq hl hc]

theorem mem_parents_references (hl : LayoutsAgree g h l l') (hc : SameClass g h c c') {n : String}
    (hn : n ∈ (g.parents c).flatMap l.references) : n ∈ (h.parents c').flatMap l'.references := by
  obtain ⟨p, hp, hn⟩ := List.mem_flatMap.1 hn
  obtain ⟨p', hsame, hp'⟩ := hgh.exists_above_right hc hp
  exact List.mem_flatMap.2 ⟨p', hp', hgh.references_eq hl hsame ▸ hn⟩

end SameHierarchy

theorem LayoutsAgree.symm {l l' : Layout} (hl : LayoutsAgree g h l l') : LayoutsAgree h g l' l :=
  (hl.imp fun _ _ hxy => ⟨hxy.1.symm, hxy.2.symm⟩).flip

namespace SameHierarchy

variable {l l' : Layout} (hgh : SameHierarchy g h)

include hgh

theorem shapeAfter_eq (hl : LayoutsAgree g h l l') (hc : SameClass g h c c') :
    g.shapeAfter l c = h.shapeAfter l' c' := by
  have hinherited : sortedSet ((g.parents c).flatMap l.references) =
      sortedSet ((h.parents c').flatMap l'.references) :=
    sortedSet_congr fun n => ⟨hgh.mem_parents_references hl hc,
      hgh.symm.mem_parents_references hl.symm hc.symm⟩
  have hempty : (g.bindingsOf c).isEmpty = (h.bindingsOf c').isEmpty := by
    rw [Bool.eq_iff_iff, List.isEmpty_iff, List.isEmpty_iff]
    exact hgh.bound c c' hc
  unfold Graph.shapeAfter
  rw [hc.identifier, hgh.isNodeType_eq hc, hempty, hinherited]

theorem parents_perm (hc : SameClass g h c c') :
    ((g.parents c).map g.iri).Perm ((h.parents c').map h.iri) :=
  hgh.perm_iris (fun _ hp => (hgh.inRange_left.mem_ids_of_below hp).2)
    (fun _ hp => (hgh.inRange_right.mem_ids_of_below hp).2) (g.nodup_parents c)
    (h.nodup_parents c') fun p p' hp => hgh.below c c' p p' hc hp

/-- Two walks that settle the same classes run in step. -/
theorem settle_agrees (budget : Nat) :
    ∀ path path' l l' c c', List.Forall₂ (SameClass g h) path path' → LayoutsAgree g h l l' →
      SameClass g h c c' →
      LayoutsAgree g h (g.settle budget path l c) (h.settle budget path' l' c') := by
  induction budget with
  | zero => exact fun _ _ _ _ _ _ _ hl _ => hl
  | succ budget ih =>
      intro path path' l l' c c' hpath hl hc
      -- the two walks pass over the same classes, and visit the superclasses in the same order
      have hdone : (l.settled c = true ∨ c ∈ path) ↔ (l'.settled c' = true ∨ c' ∈ path') := by
        unfold Layout.settled
        rw [hgh.lookup_eq hl hc]
        exact or_congr_right (List.rel_mem hgh.biUnique hc hpath)
      have hparents := forall₂_byIdentifier
        (fun p hp => (hgh.inRange_left.mem_ids_of_below hp).2)
        (fun p hp => (hgh.inRange_right.mem_ids_of_below hp).2) (hgh.parents_perm hc)
      unfold Graph.settle
      by_cases hskip : l.settled c = true ∨ c ∈ path
      · rw [if_pos hskip, if_pos (hdone.1 hskip)]
        exact hl
      · rw [if_neg hskip, if_neg fun hskip' => hskip (hdone.2 hskip')]
        have habove : LayoutsAgree g h
            ((g.byIdentifier (g.parents c)).foldl (g.settle budget (c :: path)) l)
            ((h.byIdentifier (h.parents c')).foldl (h.settle budget (c' :: path')) l') :=
          List.rel_foldl (fun l l' hl p p' hp => ih _ _ l l' p p' (.cons hc hpath) hl hp) hl
            hparents
        refine List.rel_append habove (.cons ⟨hc, ?_⟩ .nil)
        exact hgh.shapeAfter_eq habove hc

/-- **The layout does not depend on how classes are numbered.** -/
theorem layout_agrees : LayoutsAgree g h g.layout h.layout := by
  have hids := forall₂_byIdentifier (g := g) (h := h) (fun _ hc => hc) (fun _ hc => hc) (by
    rw [Graph.map_iri_ids, Graph.map_iri_ids]
    exact (List.perm_ext_iff_of_nodup hgh.nodup_left hgh.nodup_right).2 hgh.classes)
  unfold Graph.layout
  rw [hgh.size_eq]
  exact List.rel_foldl
    (fun l l' hl c c' hc => hgh.settle_agrees h.size [] [] l l' c c' .nil hl hc) .nil hids

theorem shape_eq (hc : SameClass g h c c') : g.layout.shape c = h.layout.shape c' := by
  unfold Layout.shape
  rw [hgh.lookup_eq hgh.layout_agrees hc]

end SameHierarchy

/-! ## Layouts by IRI -/

theorem Graph.iri_mem_parents_iff (hg : g.InRange) (hnodup : g.classIris.Nodup) (hd : d ∈ g.ids) :
    g.iri d ∈ (g.parents c).map g.iri ↔ g.Below c d := by
  rw [List.mem_map]
  constructor
  · rintro ⟨p, hp, hiri⟩
    exact eq_of_iri_eq hnodup (hg.mem_ids_of_below hp).2 hd hiri ▸ hp
  · exact fun hd => ⟨d, hd, rfl⟩

/-- **The layout does not depend on the numbers of classes**, with circles or without. Two graphs
    with the same class IRIs give one shape to the class under each IRI, if for each IRI they agree
    on the kind of the class, on the IRIs of its superclasses, and on whether it has properties. So
    they agree on whether it is a node type, on the bases that it inherits, and on whether it has a
    base and a leaf, and on the names of those. -/
theorem layout_determined_by_iris (hg : g.InRange) (hh : h.InRange) (hgnodup : g.classIris.Nodup)
    (hhnodup : h.classIris.Nodup) (hiris : ∀ a, a ∈ g.classIris ↔ a ∈ h.classIris)
    (hkind : ∀ c c', SameClass g h c c' → g.kind c = h.kind c')
    (hparents : ∀ c c', SameClass g h c c' →
      ∀ a, a ∈ (g.parents c).map g.iri ↔ a ∈ (h.parents c').map h.iri)
    (hbound : ∀ c c', SameClass g h c c' → (g.bindingsOf c = [] ↔ h.bindingsOf c' = [])) :
    ∀ a ∈ g.classIris, ∃ c c' s, g.find? a = some c ∧ h.find? a = some c' ∧
      g.layout.lookup c = some s ∧ h.layout.lookup c' = some s ∧
      s.isNodeType = g.isNodeType c ∧ s.isNodeType = h.isNodeType c' := by
  have hgh : SameHierarchy g h :=
    { inRange_left := hg
      inRange_right := hh
      nodup_left := hgnodup
      nodup_right := hhnodup
      classes := hiris
      kind := hkind
      bound := hbound
      below := fun c c' d d' hc hd => by
        rw [← Graph.iri_mem_parents_iff hg hgnodup hd.1, hparents c c' hc, hd.2.2,
          Graph.iri_mem_parents_iff hh hhnodup hd.2.1] }
  intro a ha
  obtain ⟨c, hc, rfl⟩ := Graph.mem_classIris.1 ha
  obtain ⟨c', hsame⟩ := hgh.exists_right hc
  obtain ⟨s, hs⟩ := Layout.settled_iff.1 ((layout_arises hg).2 c hc)
  have hnode := ((layout_arises hg).1.shape_of_class hs).2.2.1
  refine ⟨c, c', s, Graph.find?_iri hgnodup hc, ?_, hs, ?_, hnode, ?_⟩
  · rw [hsame.2.2]
    exact Graph.find?_iri hhnodup hsame.2.1
  · rw [← hgh.lookup_eq hgh.layout_agrees hsame, hs]
  · rw [hnode, hgh.isNodeType_eq hsame]

/-- Classes with links from classes to superclasses. The class number `owner` has a property. -/
def clubsGraph (names : List String) (owner : ClassId) (links : List (ClassId × ClassId)) : Graph :=
  { classes := names.map fun name => .ofKind ⟨name⟩ .ordinary
    superclass := links.foldl (fun l p => l.add p.1 p.2) .empty
    properties := [{ iri := ⟨"https://schema.org/size"⟩ }]
    bindings := [{ owner := owner, property := 0, key := ⟨"https://schema.org/size"⟩ }] }

/-- Two classes that are declared under the identifier `Team` are below each other, `Club` is below
    both, and one of the two is below `Club`. -/
def clubsGraph₁ : Graph :=
  clubsGraph ["https://schema.org/Team", "https://example.org/Team", "https://schema.org/Club"] 0
    [(0, 1), (1, 0), (2, 0), (2, 1), (1, 2)]

/-- The same hierarchy under other numbers, with superclasses in another order. -/
def clubsGraph₂ : Graph :=
  clubsGraph ["https://schema.org/Club", "https://schema.org/Team", "https://example.org/Team"] 1
    [(2, 0), (0, 2), (0, 1), (2, 1), (1, 2)]

theorem layout_determined_by_iris_clubsGraph :
    clubsGraph₁.identifier 0 = clubsGraph₁.identifier 1 ∧
    ∃ c c' s, clubsGraph₁.find? ⟨"https://example.org/Team"⟩ = some c ∧
      clubsGraph₂.find? ⟨"https://example.org/Team"⟩ = some c' ∧
      clubsGraph₁.layout.lookup c = some s ∧ clubsGraph₂.layout.lookup c' = some s ∧
      s.isNodeType = clubsGraph₁.isNodeType c ∧ s.isNodeType = clubsGraph₂.isNodeType c' := by
  have hiris : clubsGraph₁.classIris.Perm clubsGraph₂.classIris := by decide
  have hsame : ∀ c ∈ clubsGraph₁.ids, ∀ c' ∈ clubsGraph₂.ids,
      clubsGraph₁.iri c = clubsGraph₂.iri c' → clubsGraph₁.kind c = clubsGraph₂.kind c' ∧
        ((clubsGraph₁.parents c).map clubsGraph₁.iri).Perm
          ((clubsGraph₂.parents c').map clubsGraph₂.iri) ∧
        (clubsGraph₁.bindingsOf c = [] ↔ clubsGraph₂.bindingsOf c' = []) := by decide
  refine ⟨by decide +kernel, layout_determined_by_iris
    ⟨by decide, by decide, by decide, by decide, by decide, by decide⟩
    ⟨by decide, by decide, by decide, by decide, by decide, by decide⟩
    (by decide) (by decide) (fun a => hiris.mem_iff) ?_ ?_ ?_ _ (by decide)⟩
  · rintro c c' ⟨hc, hc', hiri⟩
    exact (hsame c hc c' hc' hiri).1
  · rintro c c' ⟨hc, hc', hiri⟩ a
    exact (hsame c hc c' hc' hiri).2.1.mem_iff
  · rintro c c' ⟨hc, hc', hiri⟩
    exact (hsame c hc c' hc' hiri).2.2

end Ontotype

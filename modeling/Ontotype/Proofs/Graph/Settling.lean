import Ontotype.Graph.Layout
import Ontotype.Proofs.Graph.Reach
import Ontotype.Proofs.Sorted

set_option autoImplicit false

/-! # How a layout comes about

The walk behind `Graph.layout` is described once, by the layouts that it can come through
(`Layout.Arises`): classes are settled one at a time, and when a class is settled each of its
superclasses is either settled or itself below the class. That is all that later proofs know of the
walk; what they need of a finished layout follows by induction on how it arose:

- a class has the identifier, and the properties, that the graph gives it;
- the names that it inherits are passed on by its superclasses, and only superclasses on a circle
  with it can fail to pass theirs on;
- every name that is passed on is that of a base. -/

namespace Ontotype

variable {g : Graph} {l l' : Layout} {c d p : ClassId} {s t : Shape}

/-! ## Looking up shapes -/

namespace Layout

theorem settled_iff : l.settled c = true ↔ ∃ s, l.lookup c = some s := by
  rw [settled, Option.isSome_iff_exists]

theorem not_settled_iff : l.settled c = false ↔ l.lookup c = none := by
  rw [settled, Option.isSome_eq_false_iff, Option.isNone_iff_eq_none]

theorem lookup_append_of_ne (h : d ≠ c) : (l ++ [(c, s)]).lookup d = l.lookup d := by
  rw [List.lookup_append, List.lookup_cons, beq_false_of_ne h]
  exact Option.or_none

/-- The shapes after one more class is settled. -/
theorem lookup_append_iff (hnew : l.lookup c = none) :
    (l ++ [(c, s)]).lookup d = some t ↔ l.lookup d = some t ∨ d = c ∧ t = s := by
  by_cases hdc : d = c
  · subst hdc
    rw [List.lookup_append, hnew, Option.none_or, List.lookup_cons_self]
    simp [eq_comm]
  · rw [lookup_append_of_ne hdc]
    simp [hdc]

theorem lookup_append_self (hnew : l.lookup c = none) : (l ++ [(c, s)]).lookup c = some s :=
  (lookup_append_iff hnew).2 (Or.inr ⟨rfl, rfl⟩)

theorem shape_of_lookup (h : l.lookup c = some s) : l.shape c = s := by
  rw [shape, h, Option.getD_some]

theorem references_of_lookup (h : l.lookup c = some s) : l.references c = s.references := by
  rw [references, h]
  rfl

theorem references_of_none (h : l.lookup c = none) : l.references c = [] := by
  rw [references, h]
  rfl

/-- The layout `l'` has all shapes that `l` has. -/
def Extends (l l' : Layout) : Prop := ∀ d s, l.lookup d = some s → l'.lookup d = some s

theorem Extends.refl (l : Layout) : Extends l l := fun _ _ h => h

theorem Extends.trans {l₁ l₂ l₃ : Layout} (h : Extends l₁ l₂) (h' : Extends l₂ l₃) :
    Extends l₁ l₃ :=
  fun d s hs => h' d s (h d s hs)

theorem Extends.settled (h : Extends l l') (hc : l.settled c = true) : l'.settled c = true := by
  obtain ⟨s, hs⟩ := settled_iff.1 hc
  exact settled_iff.2 ⟨s, h c s hs⟩

theorem extends_append (hnew : l.lookup c = none) : Extends l (l ++ [(c, s)]) :=
  fun _ _ hs => (lookup_append_iff hnew).2 (Or.inl hs)

theorem Extends.references_subset (h : Extends l l') (c : ClassId) :
    l.references c ⊆ l'.references c := by
  intro n hn
  cases hc : l.lookup c with
  | none =>
      rw [references_of_none hc] at hn
      exact absurd hn List.not_mem_nil
  | some s =>
      rw [references_of_lookup hc] at hn
      rw [references_of_lookup (h c s hc)]
      exact hn

/-! ## Layouts that arise -/

/-- The layouts that arise when classes are settled one at a time, each when its superclasses are
    settled, apart from those that are below the class themselves. -/
inductive Arises (g : Graph) : Layout → Prop
  | empty : Arises g []
  | settle {l : Layout} {c : ClassId} (before : Arises g l) (known : c ∈ g.ids)
      (new : l.lookup c = none) (parents : ∀ p, g.Below c p → l.settled p = true ∨ g.Above p c) :
      Arises g (l ++ [(c, g.shapeAfter l c)])

end Layout

open Layout

/-! ## The walk settles every class -/

/-- What settling does to a layout while the classes of `path` are waiting: it adds shapes, and
    none for a class that waits. -/
structure Settles (g : Graph) (path : List ClassId) (l l' : Layout) : Prop where
  arises : Arises g l'
  grows : Extends l l'
  waiting : ∀ d ∈ path, l'.lookup d = none

theorem Settles.empty : Settles g [] [] [] :=
  ⟨.empty, Extends.refl _, fun _ hd => absurd hd List.not_mem_nil⟩

theorem Settles.refl {path : List ClassId} (h : Settles g path l l') : Settles g path l' l' :=
  ⟨h.arises, Extends.refl _, h.waiting⟩

theorem Settles.trans {path : List ClassId} {l₁ l₂ l₃ : Layout} (h : Settles g path l₁ l₂)
    (h' : Settles g path l₂ l₃) : Settles g path l₁ l₃ :=
  ⟨h'.arises, h.grows.trans h'.grows, h'.waiting⟩

/-- One more class may wait as long as it is not settled. -/
theorem Settles.wait {path : List ClassId} (h : Settles g path l l') (hc : l'.lookup c = none) :
    Settles g (c :: path) l l' := by
  refine ⟨h.arises, h.grows, fun d hd => ?_⟩
  rcases List.mem_cons.1 hd with rfl | hd
  · exact hc
  · exact h.waiting d hd

/-- Nothing changes for a class that is settled, or waits. -/
theorem Settles.lookup_eq {path : List ClassId} (h : Settles g path l l')
    (hl : Settles g path l l) (hc : l.settled c = true ∨ c ∈ path) :
    l'.lookup c = l.lookup c := by
  rcases hc with hc | hc
  · obtain ⟨s, hs⟩ := settled_iff.1 hc
    rw [hs, h.grows c s hs]
  · rw [h.waiting c hc, hl.waiting c hc]

theorem settle_of_done {budget : Nat} {path : List ClassId} (hc : l.settled c = true ∨ c ∈ path) :
    g.settle budget path l c = l := by
  cases budget with
  | zero => rfl
  | succ budget => rw [Graph.settle, if_pos hc]

theorem mem_byIdentifier {cs : List ClassId} : c ∈ g.byIdentifier cs ↔ c ∈ cs := by
  simp [Graph.byIdentifier]

/-- The class `c` is above all classes of `path`. -/
def Graph.AboveAll (g : Graph) (path : List ClassId) (c : ClassId) : Prop :=
  c ∈ g.ids ∧ ∀ d ∈ path, g.Above d c

theorem Graph.aboveAll_nil (hc : c ∈ g.ids) : g.AboveAll [] c :=
  ⟨hc, fun _ hd => absurd hd List.not_mem_nil⟩

theorem Graph.AboveAll.parent {path : List ClassId} (hc : g.AboveAll path c) (hg : g.InRange)
    (hcp : g.Below c p) : g.AboveAll (c :: path) p := by
  refine ⟨(hg.mem_ids_of_below hcp).2, fun d hd => ?_⟩
  rcases List.mem_cons.1 hd with rfl | hd
  · exact Relation.ReflTransGen.single hcp
  · exact (hc.2 d hd).tail hcp

/-- A visit settles a class above all those that wait, unless it waits itself. -/
def SettlesAbove (g : Graph) (path : List ClassId) (visit : Layout → ClassId → Layout) : Prop :=
  ∀ l c, g.AboveAll path c → Settles g path l l →
    Settles g path l (visit l c) ∧ ((visit l c).settled c = true ∨ c ∈ path)

/-- Settling classes one after the other leaves all of them settled or waiting. -/
theorem SettlesAbove.foldl {path : List ClassId} {visit : Layout → ClassId → Layout}
    (hvisit : SettlesAbove g path visit) (cs : List ClassId) :
    ∀ l, (∀ c ∈ cs, g.AboveAll path c) → Settles g path l l →
      Settles g path l (cs.foldl visit l) ∧
        ∀ c ∈ cs, (cs.foldl visit l).settled c = true ∨ c ∈ path := by
  induction cs with
  | nil => exact fun l _ hl => ⟨hl, fun c hc => absurd hc List.not_mem_nil⟩
  | cons c cs ih =>
      intro l hcs hl
      obtain ⟨hfirst, hc⟩ := hvisit l c (hcs c List.mem_cons_self) hl
      obtain ⟨hrest, hall⟩ := ih (visit l c) (fun x hx => hcs x (List.mem_cons_of_mem c hx))
        hfirst.refl
      rw [List.foldl_cons]
      refine ⟨hfirst.trans hrest, fun x hx => ?_⟩
      rcases List.mem_cons.1 hx with rfl | hx
      · exact hc.imp hrest.grows.settled id
      · exact hall x hx

/-- Settling a class within the budget leaves it settled, unless it waits on the path that leads to
    it. The path holds classes below the class, so a superclass found on it closes a circle. -/
theorem settle_settles (hg : g.InRange) (budget : Nat) :
    ∀ path, Seen g.size budget path → SettlesAbove g path (g.settle budget path) := by
  induction budget with
  | zero =>
      intro path hpath l c hc hl
      -- with no budget left all classes wait
      exact ⟨hl, Or.inr (hpath.mem_of_full (Graph.mem_ids.1 hc.1))⟩
  | succ budget ih =>
      intro path hpath l c hc hl
      rw [Graph.settle]
      split
      · next hdone => exact ⟨hl, hdone⟩
      · next hnew =>
          rw [not_or, Bool.not_eq_true, not_settled_iff] at hnew
          obtain ⟨hnone, hoff⟩ := hnew
          -- the class waits while its superclasses are settled
          obtain ⟨hs, hall⟩ := (ih (c :: path) (hpath.cons (Graph.mem_ids.1 hc.1) hoff)).foldl
            (g.byIdentifier (g.parents c)) l (fun p hp => hc.parent hg (mem_byIdentifier.1 hp))
            (hl.wait hnone)
          have hstill := hs.waiting c List.mem_cons_self
          refine ⟨⟨.settle hs.arises hc.1 hstill fun p hp => ?_,
            hs.grows.trans (extends_append hstill), fun d hd => ?_⟩, Or.inl ?_⟩
          · refine (hall p (mem_byIdentifier.2 hp)).imp id fun hmem => ?_
            rcases List.mem_cons.1 hmem with rfl | hmem
            · exact Relation.ReflTransGen.refl
            · exact hc.2 p hmem
          · have hdc : d ≠ c := by
              rintro rfl
              exact hoff hd
            rw [lookup_append_of_ne hdc]
            exact hs.waiting d (List.mem_cons_of_mem c hd)
          · exact settled_iff.2 ⟨_, lookup_append_self hstill⟩

/-- The layout of a graph arises by settling all its classes. -/
theorem layout_arises (hg : g.InRange) :
    Arises g g.layout ∧ ∀ c ∈ g.ids, g.layout.settled c = true := by
  obtain ⟨hs, hall⟩ := (settle_settles hg g.size [] (.empty (Nat.le_refl g.size))).foldl
    (g.byIdentifier g.ids) [] (fun c hc => Graph.aboveAll_nil (mem_byIdentifier.1 hc)) .empty
  refine ⟨hs.arises, fun c hc => ?_⟩
  exact (hall c (mem_byIdentifier.2 hc)).resolve_right List.not_mem_nil

/-! ## What a layout says -/

namespace Layout.Arises

/-- Every shape says of its class what the graph says. -/
theorem shape_of_class (h : Arises g l) (hc : l.lookup c = some s) :
    c ∈ g.ids ∧ s.ident = g.identifier c ∧ s.isNodeType = g.isNodeType c ∧
      s.hasProperties = !(g.bindingsOf c).isEmpty := by
  induction h with
  | empty => exact absurd hc (by simp)
  | settle _ known new _ ih =>
      rcases (lookup_append_iff new).1 hc with hc | ⟨rfl, rfl⟩
      · exact ih hc
      · exact ⟨known, rfl, rfl, rfl⟩

theorem pairwise_inherited (h : Arises g l) (hc : l.lookup c = some s) :
    s.inherited.Pairwise (· < ·) := by
  induction h with
  | empty => exact absurd hc (by simp)
  | settle _ _ new _ ih =>
      rcases (lookup_append_iff new).1 hc with hc | ⟨rfl, rfl⟩
      · exact ih hc
      · exact pairwise_sortedSet _

/-- A class inherits nothing but what its superclasses pass on. -/
theorem passed_on_of_inherited (h : Arises g l) (hc : l.lookup c = some s) {n : String}
    (hn : n ∈ s.inherited) : ∃ p, g.Below c p ∧ n ∈ l.references p := by
  induction h with
  | empty => exact absurd hc (by simp)
  | settle _ _ new _ ih =>
      rcases (lookup_append_iff new).1 hc with hc | ⟨rfl, rfl⟩
      · obtain ⟨p, hp, hn⟩ := ih hc
        exact ⟨p, hp, (extends_append new).references_subset p hn⟩
      · obtain ⟨p, hp, hn⟩ := List.mem_flatMap.1 ((mem_sortedSet _ _).1 hn)
        exact ⟨p, hp, (extends_append new).references_subset p hn⟩

/-- A superclass that is not below the class itself is settled with it, and passes everything on. -/
theorem references_subset_inherited (h : Arises g l) (hc : l.lookup c = some s)
    (hp : g.Below c p) (hcircle : ¬ g.Above p c) :
    l.settled p = true ∧ l.references p ⊆ s.inherited := by
  induction h with
  | empty => exact absurd hc (by simp)
  | @settle l c' _ _ new parents ih =>
      -- once the superclass is settled, what it passes on is settled too
      have hkeep : l.settled p = true ∧ l.references p ⊆ s.inherited →
          (l ++ [(c', g.shapeAfter l c')]).settled p = true ∧
            Layout.references (l ++ [(c', g.shapeAfter l c')]) p ⊆ s.inherited := by
        rintro ⟨hsettled, hsub⟩
        obtain ⟨t, ht⟩ := settled_iff.1 hsettled
        have ht' := extends_append (s := g.shapeAfter l c') new p t ht
        rw [references_of_lookup ht] at hsub
        rw [references_of_lookup ht']
        exact ⟨settled_iff.2 ⟨t, ht'⟩, hsub⟩
      rcases (lookup_append_iff new).1 hc with hc | ⟨rfl, rfl⟩
      · exact hkeep (ih hc)
      · have hsettled := (parents p hp).resolve_right hcircle
        refine hkeep ⟨hsettled, fun n hn => ?_⟩
        exact (mem_sortedSet _ _).2 (List.mem_flatMap.2 ⟨p, hp, hn⟩)

/-- Every name that is passed on is that of the base of a class above. -/
theorem base_of_passed_on (h : Arises g l) {n : String} (hn : n ∈ l.references p) :
    ∃ a t, g.Above p a ∧ l.lookup a = some t ∧ t.base? = some n := by
  induction h generalizing p n with
  | empty => exact absurd hn (by simp [references])
  | @settle l c _ _ new _ ih =>
      have hlast := lookup_append_self (s := g.shapeAfter l c) new
      by_cases hpc : p = c
      · subst hpc
        rw [references_of_lookup hlast, Shape.references] at hn
        split at hn
        · -- the class has no base, and passes on what its superclasses pass on
          obtain ⟨q, hq, hn⟩ := List.mem_flatMap.1 ((mem_sortedSet _ _).1 hn)
          obtain ⟨a, t, ha, ht, hbase⟩ := ih hn
          exact ⟨a, t, ha.head hq, extends_append new a t ht, hbase⟩
        · next hbase =>
            refine ⟨p, _, Relation.ReflTransGen.refl, hlast, ?_⟩
            rw [Shape.base?, if_neg hbase, List.mem_singleton.1 hn]
      · have hsame : Layout.references (l ++ [(c, g.shapeAfter l c)]) p = l.references p := by
          unfold references
          rw [lookup_append_of_ne hpc]
        rw [hsame] at hn
        obtain ⟨a, t, ha, ht, hbase⟩ := ih hn
        exact ⟨a, t, ha, extends_append new a t ht, hbase⟩

end Layout.Arises

end Ontotype

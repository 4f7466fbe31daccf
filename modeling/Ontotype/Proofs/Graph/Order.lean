import Ontotype.Graph.Order
import Ontotype.Proofs.Graph.Renumbering

set_option autoImplicit false

/-! # The order of declarations is that of places

The comparison of places is the lexicographic one, of kinds, names and IRIs, where all unions have
the same name and IRI. So it is a total preorder, and it tells any two classes apart as long as
there is one union. -/

namespace Ontotype

/-! ## Comparing places -/

/-- The name that a place is sorted by. -/
def Place.sortName (p : Place) : String := if p.kind = .dataTypeUnion then "" else p.name

/-- The IRI that a place is sorted by. -/
def Place.sortIri (p : Place) : String := if p.kind = .dataTypeUnion then "" else p.iri

theorem ClassKind.rank_injective : Function.Injective ClassKind.rank := by
  intro k k' h
  cases k <;> cases k' <;> first | rfl | exact absurd h (by decide)

theorem Place.compare_eq : Place.compare =
    compareLex (compareOn fun p => p.kind.rank)
      (compareLex (compareOn Place.sortName) (compareOn Place.sortIri)) := by
  funext a b
  rw [Place.compare, compareLex, compareLex, compareOn, compareOn, compareOn, sortName, sortName,
    sortIri, sortIri]
  cases hrank : Ord.compare a.kind.rank b.kind.rank with
  | lt => rfl
  | gt => rfl
  | eq =>
      have hkind : a.kind = b.kind := ClassKind.rank_injective (Nat.compare_eq_eq.1 hrank)
      rw [← hkind]
      split <;> rfl

instance : Std.TransCmp Place.compare := by
  rw [Place.compare_eq]
  infer_instance

/-- Two places count as equal if they are unions, or have the same kind, name and IRI. -/
theorem Place.compare_eq_eq_iff {a b : Place} : a.compare b = .eq ↔
    a.kind = b.kind ∧ (a.kind = .dataTypeUnion ∨ a.name = b.name ∧ a.iri = b.iri) := by
  rw [Place.compare, Ordering.then_eq_eq, Nat.compare_eq_eq, ClassKind.rank_injective.eq_iff]
  refine and_congr_right fun _ => ?_
  split
  · next hunion => exact iff_of_true rfl (Or.inl hunion)
  · next hunion =>
      rw [Ordering.then_eq_eq, Std.LawfulEqOrd.compare_eq_iff_eq,
        Std.LawfulEqOrd.compare_eq_iff_eq]
      exact (or_iff_right hunion).symm

/-- A place that comes before another one, where one of them is that of a union, comes before it by
    its kind. -/
theorem Place.rank_lt_of_union {a b : Place} (h : a.compare b = .lt)
    (hunion : a.kind = .dataTypeUnion ∨ b.kind = .dataTypeUnion) : a.kind.rank < b.kind.rank := by
  rcases Ordering.then_eq_lt.1 h with hlt | ⟨heq, _⟩
  · exact Nat.compare_eq_lt.1 hlt
  · have hkind : a.kind = b.kind := ClassKind.rank_injective (Nat.compare_eq_eq.1 heq)
    have hequal : a.compare b = .eq :=
      Place.compare_eq_eq_iff.2 ⟨hkind, Or.inl (hunion.elim id hkind.trans)⟩
    exact absurd (h.symm.trans hequal) (by decide)

theorem ClassKind.eq_builtin_of_rank_lt {k : ClassKind}
    (h : k.rank < ClassKind.dataTypeUnion.rank) : k = .builtin := by
  cases k <;> first | rfl | exact absurd h (by decide)

theorem ClassKind.eq_ordinary_of_rank_lt {k : ClassKind}
    (h : ClassKind.dataTypeUnion.rank < k.rank) : k = .ordinary := by
  cases k <;> first | rfl | exact absurd h (by decide)

/-! ## Sorting classes -/

variable {g h : Graph}

/-- Compares two classes by their places. -/
def comparePlaces (x y : Place × Iri) : Ordering := x.1.compare y.1

instance : Std.TransCmp comparePlaces := transCmp_comap Prod.fst Place.compare

instance (g : Graph) : Std.TransCmp g.compareClasses := transCmp_comap g.place Place.compare

/-- Sorting classes with their places is sorting classes by their places. -/
theorem sortedIds_eq (g : Graph) : g.sortedIds = sortWith g.compareClasses g.ids := by
  have hsort := map_sortWith (fun c => (g.place c, c)) g.compareClasses
    (fun x y => x.1.compare y.1) (fun _ _ => rfl) g.ids
  have hsnd := congrArg (List.map Prod.snd) hsort
  rw [List.map_map, show Prod.snd ∘ (fun c => (g.place c, c)) = id from rfl, List.map_id] at hsnd
  exact hsnd.symm

theorem sortedIds_perm (g : Graph) : g.sortedIds.Perm g.ids := by
  rw [sortedIds_eq]
  exact sortWith_perm _ _

theorem map_iri_sortedIds (g : Graph) : g.sortedIds.map g.iri =
    (sortWith comparePlaces (g.ids.map fun c => (g.place c, g.iri c))).map Prod.snd := by
  have hsort := map_sortWith (fun x : Place × ClassId => (x.1, g.iri x.2))
    (fun x y => x.1.compare y.1) comparePlaces (fun _ _ => rfl)
    (g.ids.map fun c => (g.place c, c))
  have hsnd := congrArg (List.map Prod.snd) hsort
  rw [List.map_map, List.map_map] at hsnd
  rw [Graph.sortedIds, List.map_map]
  exact hsnd

section

variable (hnodup : g.classIris.Nodup)
  (hunion : ∀ c ∈ g.ids, ∀ d ∈ g.ids, g.kind c = .dataTypeUnion → g.kind d = .dataTypeUnion → c = d)

include hnodup hunion

/-- Where there is one union, classes are told apart by their places. -/
theorem eq_of_compareClasses : ∀ c ∈ g.ids, ∀ d ∈ g.ids, g.compareClasses c d = .eq → c = d := by
  intro c hc d hd hcd
  obtain ⟨hkind, hcd⟩ := Place.compare_eq_eq_iff.1 hcd
  rcases hcd with hcd | ⟨_, hiri⟩
  · exact hunion c hc d hd hcd (hkind.symm.trans hcd)
  · exact Graph.eq_of_iri_eq hnodup hc hd (congrArg Iri.mk hiri)

/-- The order of declarations is the one in which neighbours are in strict order. -/
theorem eq_sortedIds_iff {cs : List ClassId} : cs = g.sortedIds ↔
    cs.Perm g.ids ∧ cs.IsChain fun c d => g.compareClasses c d = .lt := by
  rw [sortedIds_eq]
  exact eq_sortWith_iff (eq_of_compareClasses hnodup hunion) g.nodup_ids

theorem pairwise_sortedIds : g.sortedIds.Pairwise fun c d => g.compareClasses c d = .lt := by
  rw [sortedIds_eq]
  exact pairwise_eq_lt_sortWith (eq_of_compareClasses hnodup hunion) g.nodup_ids

/-- The union stands between the builtin and the ordinary classes. -/
theorem sortedIds_split {u : ClassId} (hu : u ∈ g.ids) (hkind : g.kind u = .dataTypeUnion) :
    ∃ before after, g.sortedIds = before ++ u :: after ∧
      (∀ c ∈ before, g.kind c = .builtin) ∧ ∀ c ∈ after, g.kind c = .ordinary := by
  obtain ⟨before, after, hsplit⟩ := List.append_of_mem ((sortedIds_perm g).mem_iff.2 hu)
  have hstrict := pairwise_sortedIds hnodup hunion
  rw [hsplit, List.pairwise_append, List.pairwise_cons] at hstrict
  obtain ⟨_, ⟨hafter, _⟩, hbefore⟩ := hstrict
  refine ⟨before, after, hsplit, fun c hc => ?_, fun c hc => ?_⟩
  · have hrank := Place.rank_lt_of_union (hbefore c hc u List.mem_cons_self) (Or.inr hkind)
    exact ClassKind.eq_builtin_of_rank_lt (hkind ▸ hrank)
  · have hrank := Place.rank_lt_of_union (hafter c hc) (Or.inl hkind)
    exact ClassKind.eq_ordinary_of_rank_lt (hkind ▸ hrank)

end

/-- The classes of two graphs are declared in the same order, however they are numbered. -/
theorem SameHierarchy.forall₂_sortedIds (hgh : SameHierarchy g h)
    (hunion : ∀ c ∈ g.ids, ∀ d ∈ g.ids, g.kind c = .dataTypeUnion → g.kind d = .dataTypeUnion →
      c = d) :
    List.Forall₂ (SameClass g h) g.sortedIds h.sortedIds := by
  have hplaces : (g.ids.map fun c => (g.place c, g.iri c)).Perm
      (h.ids.map fun c => (h.place c, h.iri c)) := by
    have hids : (g.ids.map g.iri).Perm (h.ids.map h.iri) :=
      hgh.perm_iris (fun _ hc => hc) (fun _ hc => hc) g.nodup_ids h.nodup_ids fun c c' hc =>
        iff_of_true hc.1 hc.2.1
    refine perm_map_of_perm_map (fun c hc c' hc' hiri => ?_) hids
    unfold Graph.place
    rw [hgh.kind c c' ⟨hc, hc', hiri⟩, hiri]
  refine forall₂_sameClass (fun c hc => (sortedIds_perm g).mem_iff.1 hc)
    (fun c hc => (sortedIds_perm h).mem_iff.1 hc) ?_
  rw [map_iri_sortedIds, map_iri_sortedIds]
  refine congrArg (List.map Prod.snd) (sortWith_eq_of_perm ?_ hplaces)
  intro x hx y hy hxy
  obtain ⟨c, hc, rfl⟩ := List.mem_map.1 hx
  obtain ⟨d, hd, rfl⟩ := List.mem_map.1 hy
  rw [eq_of_compareClasses hgh.nodup_left hunion c hc d hd hxy]

end Ontotype

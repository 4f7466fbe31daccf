import Ontotype.Graph.Reach
import Ontotype.Proofs.Graph.Hierarchy

set_option autoImplicit false

/-! # Walks see what is reachable

`walk` enters each thing once and stops at a budget. Neither shows in what it sees: started with
nothing seen and a budget of the number of things, it sees exactly what can be reached
(`mem_reach`). The invariant (`Walked`) is that everything a walk has entered has all its
neighbours among the things seen when the walk ends. So what a class inherits, and whether a graph
is valid, can be told from what is above its classes. -/

namespace Ontotype

variable {next : Nat → List Nat} {n : Nat}

/-! ## The walk -/

/-- What a walk does to the things seen: it adds some, and sees all neighbours of what it adds. -/
structure Walked (next : Nat → List Nat) (n : Nat) (seen after : List Nat) : Prop where
  subset : seen ⊆ after
  nodup : after.Nodup
  bound : ∀ a ∈ after, a < n
  closed : ∀ a ∈ after, a ∉ seen → ∀ b ∈ next a, b ∈ after

theorem Walked.refl {seen : List Nat} (hnodup : seen.Nodup) (hbound : ∀ a ∈ seen, a < n) :
    Walked next n seen seen :=
  ⟨List.Subset.refl seen, hnodup, hbound, fun _ ha hn => absurd ha hn⟩

theorem Walked.trans {s t u : List Nat} (h₁ : Walked next n s t) (h₂ : Walked next n t u) :
    Walked next n s u := by
  refine ⟨List.Subset.trans h₁.subset h₂.subset, h₂.nodup, h₂.bound, fun a ha hs b hb => ?_⟩
  by_cases ht : a ∈ t
  · exact h₂.subset (h₁.closed a ht hs b hb)
  · exact h₂.closed a ha ht b hb

theorem Walked.length_le {s t : List Nat} (h : Walked next n s t) (hs : s.Nodup) :
    s.length ≤ t.length :=
  hs.length_le_of_subset h.subset

/-- The things that a walk may have seen before it visits something: they leave `m` things to be
    seen at most. -/
structure Seen (n m : Nat) (seen : List Nat) : Prop where
  nodup : seen.Nodup
  bound : ∀ a ∈ seen, a < n
  room : n ≤ m + seen.length

theorem Seen.empty {m : Nat} (h : n ≤ m) : Seen n m [] :=
  ⟨List.nodup_nil, fun _ ha => absurd ha List.not_mem_nil, h⟩

/-- When nothing is left to be seen, everything has been seen. -/
theorem Seen.mem_of_full {s : List Nat} (hs : Seen n 0 s) {c : Nat} (hc : c < n) : c ∈ s := by
  by_contra hnot
  have hle : (c :: s).length ≤ (List.range n).length := by
    refine (List.nodup_cons.2 ⟨hnot, hs.nodup⟩).length_le_of_subset fun a ha => ?_
    rcases List.mem_cons.1 ha with rfl | ha
    · exact List.mem_range.2 hc
    · exact List.mem_range.2 (hs.bound a ha)
  have hroom := hs.room
  rw [List.length_cons, List.length_range] at hle
  omega

theorem Walked.seen {m : Nat} {s t : List Nat} (h : Walked next n s t) (hs : Seen n m s) :
    Seen n m t :=
  ⟨h.nodup, h.bound, by have := h.length_le hs.nodup; have := hs.room; omega⟩

/-- Entering a new place takes one step off the budget. -/
theorem Seen.cons {m c : Nat} {s : List Nat} (hs : Seen n (m + 1) s) (hc : c < n) (hnew : c ∉ s) :
    Seen n m (c :: s) := by
  refine ⟨List.nodup_cons.2 ⟨hnew, hs.nodup⟩, List.forall_mem_cons.2 ⟨hc, hs.bound⟩, ?_⟩
  have hroom := hs.room
  rw [List.length_cons]
  omega

theorem Seen.perm {m : Nat} {s t : List Nat} (hs : Seen n m s) (hst : s.Perm t) : Seen n m t :=
  ⟨hst.nodup hs.nodup, fun a ha => hs.bound a (hst.mem_iff.2 ha), hst.length_eq ▸ hs.room⟩

/-- Visits one after the other keep the invariant, and see all that they visit. -/
theorem foldl_walked {m : Nat} {visit : List Nat → Nat → List Nat}
    (hvisit : ∀ t b, b < n → Seen n m t → Walked next n t (visit t b) ∧ b ∈ visit t b)
    (bs : List Nat) :
    ∀ t, (∀ b ∈ bs, b < n) → Seen n m t →
      Walked next n t (bs.foldl visit t) ∧ ∀ b ∈ bs, b ∈ bs.foldl visit t := by
  induction bs with
  | nil =>
      intro t _ ht
      exact ⟨Walked.refl ht.nodup ht.bound, fun b hb => absurd hb List.not_mem_nil⟩
  | cons b bs ih =>
      intro t hbs ht
      obtain ⟨hw, hb⟩ := hvisit t b (hbs b List.mem_cons_self) ht
      obtain ⟨hw', hall⟩ := ih (visit t b) (fun x hx => hbs x (List.mem_cons_of_mem b hx))
        (hw.seen ht)
      rw [List.foldl_cons]
      refine ⟨hw.trans hw', fun x hx => ?_⟩
      rcases List.mem_cons.1 hx with rfl | hx
      · exact hw'.subset hb
      · exact hall x hx

/-- A walk within its budget keeps the invariant, and sees where it starts. -/
theorem walk_walked (hnext : ∀ a < n, ∀ b ∈ next a, b < n) (budget : Nat) :
    ∀ (seen : List Nat) (c : Nat), c < n → Seen n budget seen →
      Walked next n seen (walk next budget seen c) ∧ c ∈ walk next budget seen c := by
  induction budget with
  | zero =>
      intro seen c hc hs
      exact ⟨Walked.refl hs.nodup hs.bound, hs.mem_of_full hc⟩
  | succ budget ih =>
      intro seen c hc hs
      rw [walk]
      split
      · next hmem => exact ⟨Walked.refl hs.nodup hs.bound, hmem⟩
      · next hnew =>
          have hs' : Seen n budget (seen ++ [c]) :=
            (hs.cons hc hnew).perm (List.perm_append_singleton c seen).symm
          obtain ⟨hw, hall⟩ := foldl_walked (fun t b hb ht => ih t b hb ht) (next c) (seen ++ [c])
            (hnext c hc) hs'
          refine ⟨⟨fun a ha => hw.subset (List.mem_append_left [c] ha), hw.nodup, hw.bound, ?_⟩,
            hw.subset (List.mem_append_right seen (List.mem_singleton_self c))⟩
          intro a ha hseen b hb
          -- `c` itself is new, and has its neighbours visited by the fold
          by_cases hac : a = c
          · subst hac
            exact hall b hb
          · refine hw.closed a ha (fun hmem => ?_) b hb
            rcases List.mem_append.1 hmem with h | h
            · exact hseen h
            · exact hac (List.mem_singleton.1 h)

/-- Visits one after the other see nothing but what each of them sees. -/
theorem mem_foldl_visit {P : Nat → Nat → Prop} {visit : List Nat → Nat → List Nat} {a : Nat}
    (hvisit : ∀ t b, a ∈ visit t b → a ∈ t ∨ P b a) (bs : List Nat) :
    ∀ t, a ∈ bs.foldl visit t → a ∈ t ∨ ∃ b ∈ bs, P b a := by
  induction bs with
  | nil => exact fun t ha => Or.inl ha
  | cons b bs ih =>
      intro t ha
      rw [List.foldl_cons] at ha
      rcases ih (visit t b) ha with ha | ⟨b', hb', hP⟩
      · rcases hvisit t b ha with ha | hP
        · exact Or.inl ha
        · exact Or.inr ⟨b, List.mem_cons_self, hP⟩
      · exact Or.inr ⟨b', List.mem_cons_of_mem b hb', hP⟩

/-- A walk sees nothing but what it can reach. -/
theorem reachable_of_mem_walk (budget : Nat) :
    ∀ (seen : List Nat) (c a : Nat), a ∈ walk next budget seen c →
      a ∈ seen ∨ Relation.ReflTransGen (fun x y => y ∈ next x) c a := by
  induction budget with
  | zero => exact fun seen c a ha => Or.inl ha
  | succ budget ih =>
      intro seen c a ha
      rw [walk] at ha
      split at ha
      · exact Or.inl ha
      · rcases mem_foldl_visit (fun t b => ih t b a) (next c) (seen ++ [c]) ha with
          ha | ⟨b, hb, hreach⟩
        · rcases List.mem_append.1 ha with ha | ha
          · exact Or.inl ha
          · rw [List.mem_singleton.1 ha]
            exact Or.inr Relation.ReflTransGen.refl
        · exact Or.inr (Relation.ReflTransGen.head hb hreach)

namespace Graph

/-- A walk through the graph sees exactly what can be reached. -/
theorem mem_reach {g : Graph} {next : ClassId → List ClassId}
    (hnext : ∀ a ∈ g.ids, ∀ b ∈ next a, b ∈ g.ids) {c : ClassId} (hc : c ∈ g.ids) (a : ClassId) :
    a ∈ g.reach next c ↔ Relation.ReflTransGen (fun x y => y ∈ next x) c a := by
  simp only [mem_ids] at hnext hc
  obtain ⟨hw, hstart⟩ := walk_walked hnext g.size [] c hc (.empty (Nat.le_refl g.size))
  constructor
  · intro ha
    exact (reachable_of_mem_walk g.size [] c a ha).resolve_left List.not_mem_nil
  · intro ha
    induction ha with
    | refl => exact hstart
    | tail _ hb ih => exact hw.closed _ ih List.not_mem_nil _ hb

/-! ## What a class inherits -/

variable {g : Graph} {c : ClassId}

theorem mem_ancestors (h : g.InRange) (hc : c ∈ g.ids) (a : ClassId) :
    a ∈ g.ancestors c ↔ g.Above c a :=
  mem_reach (fun _ _ _ hb => (h.mem_ids_of_below hb).2) hc a

/-- A class is classified if it, or a class above it, is declared to be a class. -/
theorem isClassified_iff (h : g.InRange) (hc : c ∈ g.ids) :
    g.isClassified c = true ↔ ∃ a, g.Above c a ∧ (g.entry a).marked = true := by
  rw [isClassified, List.any_eq_true]
  exact exists_congr fun a => and_congr_left fun _ => mem_ancestors h hc a

/-- Whether the superclass `p` decides if `c` is a node type. -/
def DecidedBy (g : Graph) (c p : ClassId) : Prop :=
  g.kind c = .ordinary ∧ g.bindingsOf c = [] ∧ g.Below c p

theorem mem_decidingParents {p : ClassId} : p ∈ g.decidingParents c ↔ g.DecidedBy c p := by
  rw [decidingParents, DecidedBy]
  split
  · next h => exact ⟨fun hp => ⟨h.1, h.2, hp⟩, fun hp => hp.2.2⟩
  · next h => exact ⟨fun hp => absurd hp List.not_mem_nil, fun hp => absurd ⟨hp.1, hp.2.1⟩ h⟩

/-- A class is a node type unless a way up through ordinary classes without properties of their own
    leads to a class of another kind. -/
theorem isNodeType_iff (h : g.InRange) (hc : c ∈ g.ids) :
    g.isNodeType c = true ↔
      ∀ a, Relation.ReflTransGen g.DecidedBy c a → g.kind a = .ordinary := by
  have hnext : ∀ a ∈ g.ids, ∀ b ∈ g.decidingParents a, b ∈ g.ids :=
    fun a _ b hb => (h.mem_ids_of_below (mem_decidingParents.1 hb).2.2).2
  have hrel : (fun x y => y ∈ g.decidingParents x) = g.DecidedBy := by
    funext x y
    exact propext mem_decidingParents
  rw [isNodeType, List.all_eq_true]
  refine forall_congr' fun a => ?_
  rw [mem_reach hnext hc a, hrel, decide_eq_true_iff]

theorem kind_of_isNodeType (h : g.InRange) (hc : c ∈ g.ids) (hnode : g.isNodeType c = true) :
    g.kind c = .ordinary :=
  (isNodeType_iff h hc).1 hnode c Relation.ReflTransGen.refl

/-- Ordinary classes with properties of their own are node types, whatever is above them. -/
theorem isNodeType_of_bindings (h : g.InRange) (hc : c ∈ g.ids) (hkind : g.kind c = .ordinary)
    (hbound : g.bindingsOf c ≠ []) : g.isNodeType c = true := by
  refine (isNodeType_iff h hc).2 fun a ha => ?_
  rcases Relation.ReflTransGen.cases_head ha with rfl | ⟨p, hp, _⟩
  · exact hkind
  · exact absurd hp.2.1 hbound

theorem mem_aliases (h : g.InRange) (hc : c ∈ g.ids) (t : TypeRef) :
    t ∈ g.aliases c ↔ ∃ a, g.Above c a ∧ t ∈ (g.entry a).aliases := by
  rw [aliases, TypeRef.mem_sortedSet, List.mem_flatMap]
  exact exists_congr fun a => and_congr_left fun _ => mem_ancestors h hc a

section

variable (h : g.InRange) (hc : c ∈ g.ids)
  (haliases : ∀ a ∈ g.ids, ∀ t ∈ (g.entry a).aliases, ∃ p, t = .primitive p)

include h hc haliases

theorem exists_primitive_of_mem_aliases {t : TypeRef} (ht : t ∈ g.aliases c) :
    ∃ p, t = .primitive p := by
  obtain ⟨a, ha, ht⟩ := (mem_aliases h hc _).1 ht
  exact haliases a (h.mem_ids_of_above hc ha) _ ht

/-- Where classes are other names of primitive types only, they name nothing. -/
theorem named_notMem_aliases (n : String) : .named n ∉ g.aliases c := by
  intro hn
  obtain ⟨p, hp⟩ := exists_primitive_of_mem_aliases h hc haliases hn
  exact absurd hp (by simp)

end

/-! ## Validity -/

theorem validate_eq_ok_iff : g.validate = .ok () ↔ ∀ c ∈ g.ids, g.isClassified c = true := by
  rw [validate]
  split
  · next c hc =>
      have hnot := List.find?_some hc
      rw [Bool.not_eq_true'] at hnot
      refine iff_of_false (by simp) fun hall => ?_
      rw [hall c (List.mem_of_find?_eq_some hc)] at hnot
      exact absurd hnot (by simp)
  · next hnone => exact iff_of_true rfl (by simpa using hnone)

/-- The class with the least number of those that are not classified is reported. -/
theorem validate_eq_error_iff_least {e : CompileError} : g.validate = .error e ↔
    ∃ c ∈ g.ids, e = .unclassified (g.iri c) ∧ g.isClassified c = false ∧
      ∀ d < c, g.isClassified d = true := by
  have hfind : ∀ c, (g.ids.find? fun c => !g.isClassified c) = some c ↔
      g.isClassified c = false ∧ c ∈ g.ids ∧ ∀ d < c, g.isClassified d = true := by
    intro c
    rw [ids, List.find?_range_eq_some]
    simp only [Bool.not_eq_true', Bool.not_not]
  rw [validate]
  split
  · next c hc =>
      obtain ⟨hnot, hids, hleast⟩ := (hfind c).1 hc
      constructor
      · rintro ⟨⟩
        exact ⟨c, hids, rfl, hnot, hleast⟩
      · rintro ⟨d, hd, rfl, hnot', hleast'⟩
        rw [Option.some.inj (hc.symm.trans ((hfind d).2 ⟨hnot', hd, hleast'⟩))]
  · next hnone =>
      refine iff_of_false (by simp) ?_
      rintro ⟨c, hc, _, hnot, hleast⟩
      exact absurd (hnone.symm.trans ((hfind c).2 ⟨hnot, hc, hleast⟩)) (by simp)

end Graph

end Ontotype

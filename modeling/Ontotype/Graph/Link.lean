set_option autoImplicit false

/-! # Links between numbered things

A link relates two kinds of numbered things, for instance classes and their superclasses. It holds
each pair once, in the order in which the pairs were added, and is read from both sides: what a
thing is linked to, and what is linked to it. The two sides agree because they are two readings of
one list. -/

namespace Ontotype

/-- Pairs of numbers, each once, in the order in which they were added. -/
structure Link where
  pairs : List (Nat × Nat)
  nodup : pairs.Nodup

namespace Link

/-- The link that relates nothing. -/
def empty : Link := ⟨[], List.nodup_nil⟩

instance : Inhabited Link := ⟨empty⟩

/-- Relates `a` to `b`; a pair that is related already keeps its place. -/
def add (l : Link) (a b : Nat) : Link :=
  if h : (a, b) ∈ l.pairs then l
  else
    { pairs := l.pairs ++ [(a, b)]
      nodup := List.nodup_append.2 ⟨l.nodup, by simp, fun p hp q hq e => by
        rw [List.mem_singleton.1 hq] at e
        exact h (e ▸ hp)⟩ }

/-- What `a` is related to. -/
def targets (l : Link) (a : Nat) : List Nat := (l.pairs.filter (·.1 = a)).map Prod.snd

/-- What is related to `b`. -/
def sources (l : Link) (b : Nat) : List Nat := (l.pairs.filter (·.2 = b)).map Prod.fst

@[simp] theorem mem_targets {l : Link} {a b : Nat} : b ∈ l.targets a ↔ (a, b) ∈ l.pairs := by
  simp [targets]

@[simp] theorem mem_sources {l : Link} {a b : Nat} : a ∈ l.sources b ↔ (a, b) ∈ l.pairs := by
  simp [sources]

/-- The two sides of a link agree. -/
theorem mem_targets_iff_mem_sources {l : Link} {a b : Nat} : b ∈ l.targets a ↔ a ∈ l.sources b := by
  rw [mem_targets, mem_sources]

@[simp] theorem mem_pairs_add {l : Link} {a b : Nat} {p : Nat × Nat} :
    p ∈ (l.add a b).pairs ↔ p ∈ l.pairs ∨ p = (a, b) := by
  rw [add]
  split
  · next h => exact ⟨Or.inl, fun hp => hp.elim id fun e => e ▸ h⟩
  · simp

theorem nodup_targets (l : Link) (a : Nat) : (l.targets a).Nodup := by
  have h := l.nodup.filter (fun p => decide (p.1 = a))
  rw [targets, List.nodup_iff_pairwise_ne, List.pairwise_map]
  refine (List.nodup_iff_pairwise_ne.1 h).imp_of_mem fun {p q} hp hq ne => ?_
  simp only [List.mem_filter, decide_eq_true_eq] at hp hq
  exact fun e => ne (Prod.ext (hp.2.trans hq.2.symm) e)

theorem nodup_sources (l : Link) (b : Nat) : (l.sources b).Nodup := by
  have h := l.nodup.filter (fun p => decide (p.2 = b))
  rw [sources, List.nodup_iff_pairwise_ne, List.pairwise_map]
  refine (List.nodup_iff_pairwise_ne.1 h).imp_of_mem fun {p q} hp hq ne => ?_
  simp only [List.mem_filter, decide_eq_true_eq] at hp hq
  exact fun e => ne (Prod.ext e (hp.2.trans hq.2.symm))

end Link

end Ontotype

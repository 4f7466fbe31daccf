set_option autoImplicit false

/-! # Sorting by a comparison, and lists of texts as sets

Everything that is printed in a fixed order goes through the two functions of this file.
`sortWith` is a stable sort by a comparison; `sortedSet` brings a list of texts into the one form
that depends only on which texts it contains: each once, in code point order. The lemmas say that
neither loses or invents an element, and that the results are in order.

The sort inserts one element at a time. The lists of an ontology are short, and this sort runs by
structural recursion, so a closed instance of anything built on it can be evaluated. -/

namespace Ontotype

/-! ## Removing repetitions -/

/-- Keeping the first of equal elements leaves no two equal ones. -/
theorem nodup_eraseDups {α : Type} [BEq α] [LawfulBEq α] : (xs : List α) → xs.eraseDups.Nodup
  | [] => by simp
  | x :: rest => by
      rw [List.eraseDups_cons, List.nodup_cons]
      refine ⟨fun h => ?_, nodup_eraseDups _⟩
      simp [List.mem_eraseDups, List.mem_filter] at h
termination_by xs => xs.length
decreasing_by exact Nat.lt_succ_of_le (List.length_filter_le _ _)

theorem eraseDups_concat_of_mem {α : Type} [BEq α] [LawfulBEq α] {xs : List α} {x : α}
    (h : x ∈ xs) : (xs ++ [x]).eraseDups = xs.eraseDups := by
  rw [List.eraseDups_append]
  simp [List.removeAll, h]

theorem eraseDups_concat_of_not_mem {α : Type} [BEq α] [LawfulBEq α] {xs : List α}
    {x : α} (h : x ∉ xs) : (xs ++ [x]).eraseDups = xs.eraseDups ++ [x] := by
  rw [List.eraseDups_append]
  simp [List.removeAll, h, List.eraseDups_cons]

/-! ## Sorting -/

/-- Puts `x` before the first element of `xs` that it does not come after. -/
def insertWith {α : Type} (cmp : α → α → Ordering) (x : α) : List α → List α
  | [] => [x]
  | y :: ys => if (cmp x y).isLE then x :: y :: ys else y :: insertWith cmp x ys

/-- Sorts by a comparison; elements that compare equal keep their order. -/
def sortWith {α : Type} (cmp : α → α → Ordering) (xs : List α) : List α :=
  xs.foldr (insertWith cmp) []

theorem insertWith_perm {α : Type} (cmp : α → α → Ordering) (x : α) (xs : List α) :
    (insertWith cmp x xs).Perm (x :: xs) := by
  induction xs with
  | nil => exact List.Perm.refl _
  | cons y ys ih =>
      rw [insertWith]
      split
      · exact List.Perm.refl _
      · exact (ih.cons y).trans (List.Perm.swap x y ys)

theorem sortWith_perm {α : Type} (cmp : α → α → Ordering) (xs : List α) :
    (sortWith cmp xs).Perm xs := by
  induction xs with
  | nil => exact List.Perm.refl _
  | cons x xs ih => exact (insertWith_perm cmp x _).trans (ih.cons x)

@[simp] theorem mem_sortWith {α : Type} (cmp : α → α → Ordering) (xs : List α) (x : α) :
    x ∈ sortWith cmp xs ↔ x ∈ xs :=
  (sortWith_perm cmp xs).mem_iff

/-- Of two elements, a total preorder puts the one after the other that does not come first. -/
theorem isLE_of_not_isLE {α : Type} {cmp : α → α → Ordering} [Std.OrientedCmp cmp] {x y : α}
    (h : ¬ (cmp x y).isLE) : (cmp y x).isLE := by
  have swap : cmp x y = (cmp y x).swap := Std.OrientedCmp.eq_swap
  rw [swap] at h
  cases order : cmp y x <;> simp_all

theorem pairwise_insertWith {α : Type} {cmp : α → α → Ordering} [Std.TransCmp cmp] (x : α)
    {xs : List α} (h : xs.Pairwise fun a b => (cmp a b).isLE) :
    (insertWith cmp x xs).Pairwise fun a b => (cmp a b).isLE := by
  induction xs with
  | nil => simp [insertWith]
  | cons y ys ih =>
      obtain ⟨first, rest⟩ := List.pairwise_cons.1 h
      rw [insertWith]
      split
      · next le =>
          refine List.pairwise_cons.2 ⟨fun z hz => ?_, h⟩
          rcases List.mem_cons.1 hz with rfl | hz
          · exact le
          · exact Std.TransCmp.isLE_trans le (first z hz)
      · next notLE =>
          refine List.pairwise_cons.2 ⟨fun z hz => ?_, ih rest⟩
          rcases List.mem_cons.1 ((insertWith_perm cmp x ys).mem_iff.1 hz) with rfl | hz
          · exact isLE_of_not_isLE notLE
          · exact first z hz

/-- What `sortWith` returns is in order. -/
theorem pairwise_sortWith {α : Type} (cmp : α → α → Ordering) [Std.TransCmp cmp] (xs : List α) :
    (sortWith cmp xs).Pairwise fun a b => (cmp a b).isLE := by
  induction xs with
  | nil => exact List.Pairwise.nil
  | cons x xs ih => exact pairwise_insertWith x ih

/-! ## Sets of texts -/

/-- The texts of a list, each once, in code point order. -/
def sortedSet (xs : List String) : List String :=
  sortWith compare xs.eraseDups

@[simp] theorem mem_sortedSet (xs : List String) (x : String) : x ∈ sortedSet xs ↔ x ∈ xs := by
  rw [sortedSet, mem_sortWith, List.mem_eraseDups]

/-- Of two different texts, the one that does not come after the other is smaller. -/
theorem lt_of_isLE_of_ne {a b : String} (le : (compare a b).isLE) (ne : a ≠ b) : a < b := by
  have cases : (compareOfLessAndEq a b).isLE := le
  by_cases less : a < b
  · exact less
  · simp [compareOfLessAndEq, less, ne] at cases

/-- Each text of a sorted set is smaller than all that follow it. -/
theorem pairwise_sortedSet (xs : List String) : (sortedSet xs).Pairwise (· < ·) := by
  have order := pairwise_sortWith (compare (α := String)) xs.eraseDups
  have distinct : (sortedSet xs).Nodup :=
    (sortWith_perm compare xs.eraseDups).nodup_iff.2 (nodup_eraseDups xs)
  exact (order.and distinct).imp fun h => lt_of_isLE_of_ne h.1 h.2

end Ontotype

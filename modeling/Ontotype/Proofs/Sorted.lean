import Ontotype.TypeRef
import Mathlib.Data.List.Destutter
import Mathlib.Data.List.Nodup

set_option autoImplicit false

/-! # Sorted lists as normal forms

A sort forgets the order that its input came in as soon as the comparison tells the elements apart
(`sortWith_eq_of_perm`), and a sorted set forgets repetitions too (`sortedSet_congr`): two lists
with the same elements have one sorted set. Sets of type references are sorted by a key that is
different for different references (`TypeRef.key_injective`), so the same holds of them, and a set
is also what remains of a sorted list when neighbours with one key are collapsed
(`TypeRef.collapsed_eq_sortedSet`). Either set is the one list in strict order that has its elements
(`eq_of_strict_order`). -/

namespace Ontotype

variable {α β : Type}

/-! ## Sorting -/

/-- A sort of a permuted list, if the comparison tells its elements apart. -/
theorem sortWith_eq_of_perm {cmp : α → α → Ordering} [Std.TransCmp cmp] {xs ys : List α}
    (hanti : ∀ a ∈ xs, ∀ b ∈ xs, cmp a b = .eq → a = b) (hperm : xs.Perm ys) :
    sortWith cmp xs = sortWith cmp ys := by
  have hsame : (sortWith cmp xs).Perm (sortWith cmp ys) :=
    (sortWith_perm cmp xs).trans (hperm.trans (sortWith_perm cmp ys).symm)
  refine List.Perm.eq_of_pairwise (fun a b ha hb hab hba => ?_) (pairwise_sortWith cmp xs)
    (pairwise_sortWith cmp ys) hsame
  have ha' : a ∈ xs := (mem_sortWith cmp xs a).1 ha
  have hb' : b ∈ xs := hperm.mem_iff.2 ((mem_sortWith cmp ys b).1 hb)
  exact hanti a ha' b hb' (Std.OrientedCmp.isLE_antisymm hab hba)

theorem map_insertWith {f : α → β} {cmp : α → α → Ordering} {cmp' : β → β → Ordering} {x : α}
    {xs : List α} (h : ∀ y ∈ xs, cmp' (f x) (f y) = cmp x y) :
    (insertWith cmp x xs).map f = insertWith cmp' (f x) (xs.map f) := by
  induction xs with
  | nil => rfl
  | cons y ys ih =>
      rw [List.map_cons, insertWith, insertWith, h y List.mem_cons_self]
      split
      · rfl
      · rw [List.map_cons, ih fun z hz => h z (List.mem_cons_of_mem y hz)]

/-- A sort by what `f` makes of the elements, if the one comparison does to them what the other
    does to what `f` makes of them. -/
theorem map_sortWith_of_mem {f : α → β} {cmp : α → α → Ordering} {cmp' : β → β → Ordering}
    {xs : List α} (h : ∀ x ∈ xs, ∀ y ∈ xs, cmp' (f x) (f y) = cmp x y) :
    (sortWith cmp xs).map f = sortWith cmp' (xs.map f) := by
  induction xs with
  | nil => rfl
  | cons x xs ih =>
      have hrest := ih fun y hy z hz =>
        h y (List.mem_cons_of_mem x hy) z (List.mem_cons_of_mem x hz)
      show (insertWith cmp x (sortWith cmp xs)).map f = insertWith cmp' (f x) (sortWith cmp' _)
      rw [map_insertWith fun y hy => h x List.mem_cons_self y
        (List.mem_cons_of_mem x ((mem_sortWith cmp xs y).1 hy)), hrest]

theorem map_sortWith (f : α → β) (cmp : α → α → Ordering) (cmp' : β → β → Ordering)
    (h : ∀ a b, cmp' (f a) (f b) = cmp a b) (xs : List α) :
    (sortWith cmp xs).map f = sortWith cmp' (xs.map f) :=
  map_sortWith_of_mem fun x _ y _ => h x y

/-- A sort by another comparison that does the same to the elements. -/
theorem sortWith_congr {cmp cmp' : α → α → Ordering} {xs : List α}
    (h : ∀ x ∈ xs, ∀ y ∈ xs, cmp x y = cmp' x y) : sortWith cmp xs = sortWith cmp' xs := by
  have hid := map_sortWith_of_mem (f := id) fun x hx y hy => (h x hx y hy).symm
  rwa [List.map_id, List.map_id] at hid

/-- Two lists that are permutations of each other under the names of their elements are so under
    whatever is determined by a name. -/
theorem perm_map_of_perm_map {γ κ : Type} {xs : List α} {ys : List β} {f : α → κ} {f' : β → κ}
    {m : α → γ} {m' : β → γ} (hm : ∀ x ∈ xs, ∀ y ∈ ys, f x = f' y → m x = m' y)
    (hperm : (xs.map f).Perm (ys.map f')) : (xs.map m).Perm (ys.map m') := by
  induction xs generalizing ys with
  | nil =>
      rw [List.map_nil, List.nil_perm, List.map_eq_nil_iff] at hperm
      rw [hperm]
      exact List.Perm.nil
  | cons x xs ih =>
      have hx : f x ∈ ys.map f' := hperm.mem_iff.1 List.mem_cons_self
      obtain ⟨y, hy, hxy⟩ := List.mem_map.1 hx
      obtain ⟨before, after, rfl⟩ := List.append_of_mem hy
      -- the matching element is moved to the front of the other list
      have hfront : (before ++ y :: after).Perm (y :: (before ++ after)) := List.perm_middle
      have hrest : (xs.map f).Perm ((before ++ after).map f') := by
        have hcons := hperm.trans (hfront.map f')
        rw [List.map_cons, List.map_cons, hxy] at hcons
        exact List.Perm.cons_inv hcons
      have htail := ih (fun x' hx' y' hy' => hm x' (List.mem_cons_of_mem x hx') y'
        (hfront.mem_iff.2 (List.mem_cons_of_mem y hy'))) hrest
      rw [List.map_cons, hm x List.mem_cons_self y hy hxy.symm]
      exact (htail.cons (m' y)).trans (hfront.map m').symm

/-- A sort by a comparison that never confuses two texts. -/
theorem sortWith_compare_eq_of_perm {xs ys : List String} (h : xs.Perm ys) :
    sortWith compare xs = sortWith compare ys :=
  sortWith_eq_of_perm (fun _ _ _ _ => Std.LawfulEqOrd.eq_of_compare) h

/-- Elements are compared by what `f` makes of them. -/
theorem transCmp_comap (f : α → β) (cmp : β → β → Ordering) [Std.TransCmp cmp] :
    Std.TransCmp fun x y => cmp (f x) (f y) where
  eq_swap {a b} := show cmp (f a) (f b) = (cmp (f b) (f a)).swap from Std.OrientedCmp.eq_swap
  isLE_trans {a _ c} hab hbc := show (cmp (f a) (f c)).isLE from Std.TransCmp.isLE_trans hab hbc

/-! ## Strict orders -/

section

variable {cmp : α → α → Ordering} [Std.TransCmp cmp] {xs ys : List α}

/-- A sort of different elements is strict, if the comparison tells them apart. -/
theorem pairwise_eq_lt_sortWith (hanti : ∀ a ∈ xs, ∀ b ∈ xs, cmp a b = .eq → a = b)
    (hnodup : xs.Nodup) : (sortWith cmp xs).Pairwise fun a b => cmp a b = .lt := by
  have hdistinct : (sortWith cmp xs).Nodup := (sortWith_perm cmp xs).nodup_iff.2 hnodup
  refine ((pairwise_sortWith cmp xs).and hdistinct).imp_of_mem fun {a b} ha hb hab => ?_
  have hne : cmp a b ≠ .eq := fun heq =>
    hab.2 (hanti a ((mem_sortWith cmp xs a).1 ha) b ((mem_sortWith cmp xs b).1 hb) heq)
  exact (Ordering.isLE_iff_eq_lt_or_eq_eq.1 hab.1).resolve_right hne

/-- The sort is the one way to put the elements in an order that is strict between neighbours. -/
theorem eq_sortWith_iff (hanti : ∀ a ∈ xs, ∀ b ∈ xs, cmp a b = .eq → a = b) (hnodup : xs.Nodup) :
    ys = sortWith cmp xs ↔ ys.Perm xs ∧ ys.IsChain fun a b => cmp a b = .lt := by
  constructor
  · rintro rfl
    exact ⟨sortWith_perm cmp xs, (pairwise_eq_lt_sortWith hanti hnodup).isChain⟩
  · rintro ⟨hperm, hchain⟩
    have htrans : Trans (fun a b => cmp a b = .lt) (fun a b => cmp a b = .lt)
        fun a b => cmp a b = .lt := ⟨Std.TransCmp.lt_trans⟩
    have hsorted : ys.Pairwise fun a b => (cmp a b).isLE :=
      (List.isChain_iff_pairwise.1 hchain).imp Ordering.isLE_of_eq_lt
    refine List.Perm.eq_of_pairwise (fun a b ha hb hab hba => ?_) hsorted
      (pairwise_sortWith cmp xs) (hperm.trans (sortWith_perm cmp xs).symm)
    exact hanti a (hperm.mem_iff.1 ha) b ((mem_sortWith cmp xs b).1 hb)
      (Std.OrientedCmp.isLE_antisymm hab hba)

end

/-- A list in a strict order has no repetitions. -/
theorem nodup_of_strict_order {r : α → α → Prop} (hasymm : ∀ {a b}, r a b → ¬ r b a) {xs : List α}
    (h : xs.Pairwise r) : xs.Nodup := by
  refine h.imp ?_
  rintro a _ hlt rfl
  exact hasymm hlt hlt

/-- Lists in one strict order are the same if they have the same elements. -/
theorem eq_of_strict_order {r : α → α → Prop} (hasymm : ∀ {a b}, r a b → ¬ r b a) {xs ys : List α}
    (hxs : xs.Pairwise r) (hys : ys.Pairwise r) (h : ∀ a, a ∈ xs ↔ a ∈ ys) : xs = ys := by
  have hperm : xs.Perm ys := (List.perm_ext_iff_of_nodup (nodup_of_strict_order hasymm hxs)
    (nodup_of_strict_order hasymm hys)).2 h
  exact hperm.eq_of_pairwise (fun a b _ _ hab hba => absurd hba (hasymm hab)) hxs hys

/-- Where neighbours have different names, a list that is sorted by names is strictly so. -/
theorem pairwise_lt_of_isChain {name : α → String} {xs : List α}
    (hsorted : xs.Pairwise fun x y => (compareOn name x y).isLE)
    (hchain : xs.IsChain fun x y => name x ≠ name y) : xs.Pairwise fun x y => name x < name y := by
  have hstrict : xs.IsChain fun x y => name x < name y := by
    induction hchain with
    | nil => exact .nil
    | singleton x => exact .singleton x
    | cons_cons hne _ ih =>
        obtain ⟨hfirst, hrest⟩ := List.pairwise_cons.1 hsorted
        exact .cons_cons (lt_of_isLE_of_ne (hfirst _ List.mem_cons_self) hne) (ih hrest)
  have htrans : Trans (fun x y : α => name x < name y) (fun x y => name x < name y)
      fun x y => name x < name y := ⟨String.lt_trans⟩
  exact List.isChain_iff_pairwise.1 hstrict

/-- Where no text stands twice, a list that is sorted by names, and by texts where those are equal,
    is strictly so. -/
theorem pairwise_lt_sortWith {name text : α → String} {xs : List α} (h : (xs.map text).Nodup) :
    (sortWith (compareLex (compareOn name) (compareOn text)) xs).Pairwise fun x y =>
      name x < name y ∨ name x = name y ∧ text x < text y := by
  have hsorted := pairwise_sortWith (compareLex (compareOn name) (compareOn text)) xs
  have hdistinct : (sortWith (compareLex (compareOn name) (compareOn text)) xs).Pairwise
      fun x y => text x ≠ text y :=
    List.pairwise_map.1 (((sortWith_perm _ xs).map text).nodup_iff.2 h)
  refine (hsorted.and hdistinct).imp fun {x y} hxy => ?_
  obtain ⟨hle, hne⟩ := hxy
  rw [compareLex, Ordering.isLE_then_iff_or] at hle
  rcases hle with hlt | ⟨heq, hle⟩
  · refine Or.inl (lt_of_isLE_of_ne (Ordering.isLE_of_eq_lt hlt) fun hname => ?_)
    have hself : compare (name y) (name y) = .eq := Std.ReflCmp.compare_self
    rw [compareOn, hname, hself] at hlt
    exact absurd hlt (by decide)
  · exact Or.inr ⟨Std.LawfulEqOrd.eq_of_compare heq, lt_of_isLE_of_ne hle hne⟩

/-! ## Sorting what a filter keeps -/

theorem insertWith_of_forall_isLE {cmp : α → α → Ordering} {x : α} {xs : List α}
    (h : ∀ y ∈ xs, (cmp x y).isLE) : insertWith cmp x xs = x :: xs := by
  cases xs with
  | nil => rfl
  | cons y ys => rw [insertWith, if_pos (h y List.mem_cons_self)]

theorem filter_insertWith {cmp : α → α → Ordering} [Std.TransCmp cmp] (p : α → Bool) (x : α)
    {xs : List α} (h : xs.Pairwise fun a b => (cmp a b).isLE) :
    (insertWith cmp x xs).filter p =
      if p x then insertWith cmp x (xs.filter p) else xs.filter p := by
  induction xs with
  | nil => rw [insertWith, List.filter_cons, List.filter_nil, insertWith]
  | cons y ys ih =>
      obtain ⟨first, rest⟩ := List.pairwise_cons.1 h
      rw [insertWith]
      split
      · next le =>
          -- everything from `y` on comes after `x`, so the filtered list starts with `x` too
          have hall : ∀ z ∈ (y :: ys).filter p, (cmp x z).isLE := by
            intro z hz
            rcases List.mem_cons.1 (List.mem_of_mem_filter hz) with rfl | hz
            · exact le
            · exact Std.TransCmp.isLE_trans le (first z hz)
          rw [List.filter_cons, insertWith_of_forall_isLE hall]
      · next notLE =>
          rw [List.filter_cons, List.filter_cons, ih rest]
          by_cases hx : p x = true
          · by_cases hy : p y = true
            · rw [if_pos hx, if_pos hx, if_pos hy, if_pos hy, insertWith, if_neg notLE]
            · rw [if_pos hx, if_pos hx, if_neg hy, if_neg hy]
          · rw [if_neg hx, if_neg hx]

/-- Sorting what a filter keeps is filtering what is sorted. -/
theorem filter_sortWith (cmp : α → α → Ordering) [Std.TransCmp cmp] (p : α → Bool) (xs : List α) :
    (sortWith cmp xs).filter p = sortWith cmp (xs.filter p) := by
  induction xs with
  | nil => rfl
  | cons x xs ih =>
      show (insertWith cmp x (sortWith cmp xs)).filter p = _
      rw [filter_insertWith p x (pairwise_sortWith cmp xs), ih, List.filter_cons]
      split <;> rfl

/-! ## Sets of texts -/

/-- Two lists without repetitions that have the same elements are permutations of each other. -/
theorem eraseDups_perm [BEq α] [LawfulBEq α] {xs ys : List α} (h : ∀ x, x ∈ xs ↔ x ∈ ys) :
    xs.eraseDups.Perm ys.eraseDups := by
  refine (List.perm_ext_iff_of_nodup (nodup_eraseDups xs) (nodup_eraseDups ys)).2 fun x => ?_
  rw [List.mem_eraseDups, List.mem_eraseDups, h]

theorem sortedSet_congr {xs ys : List String} (h : ∀ x, x ∈ xs ↔ x ∈ ys) :
    sortedSet xs = sortedSet ys :=
  sortWith_compare_eq_of_perm (eraseDups_perm h)

/-- A sorted list is the sorted set of whatever has its elements. -/
theorem eq_sortedSet {xs ys : List String} (hsorted : xs.Pairwise (· < ·))
    (h : ∀ x, x ∈ xs ↔ x ∈ ys) : xs = sortedSet ys :=
  eq_of_strict_order String.lt_asymm hsorted (pairwise_sortedSet ys) fun x => by
    rw [mem_sortedSet, h]

/-- The set of the texts that a filter keeps. -/
theorem filter_sortedSet {xs ys : List String} {p : String → Bool}
    (h : ∀ x, x ∈ ys ↔ x ∈ xs ∧ p x = true) : (sortedSet xs).filter p = sortedSet ys := by
  have hperm : (xs.eraseDups.filter p).Perm ys.eraseDups := by
    refine (List.perm_ext_iff_of_nodup ((nodup_eraseDups xs).filter p) (nodup_eraseDups ys)).2
      fun x => ?_
    rw [List.mem_filter, List.mem_eraseDups, List.mem_eraseDups, h]
  rw [sortedSet, filter_sortWith, sortWith_compare_eq_of_perm hperm, sortedSet]

/-! ## Sets of type references -/

theorem Primitive.name_injective : Function.Injective Primitive.name := by
  intro s t h
  cases s <;> cases t <;> first | rfl | exact absurd h (by decide)

/-- The first character of a key tells which kind of reference it belongs to. -/
def TypeRef.initial : TypeRef → Char
  | .primitive _ => 'p'
  | .named _ => 'n'
  | .literal _ => 'l'
  | .idReference => 'i'

theorem TypeRef.head?_key (t : TypeRef) : t.key.toList.head? = some t.initial := by
  cases t <;> simp [TypeRef.key, TypeRef.initial]

/-- References with one key are the same: the kinds have different initials, and behind the word
    for the kind a key holds the whole reference. -/
theorem TypeRef.key_injective : Function.Injective TypeRef.key := by
  intro s t h
  have hinitial : s.initial = t.initial :=
    Option.some.inj (by rw [← s.head?_key, ← t.head?_key, h])
  cases s <;> cases t <;> simp [TypeRef.initial] at hinitial
  case primitive.primitive a b =>
      rw [Primitive.name_injective ((String.append_right_inj "primitive:").1 h)]
  case named.named a b => rw [(String.append_right_inj "named:").1 h]
  case literal.literal a b => rw [(String.append_right_inj "literal:").1 h]
  case idReference.idReference => rfl

theorem TypeRef.sortedSet_congr {xs ys : List TypeRef} (h : ∀ t, t ∈ xs ↔ t ∈ ys) :
    TypeRef.sortedSet xs = TypeRef.sortedSet ys := by
  refine sortWith_eq_of_perm (fun a _ b _ hab => ?_) (eraseDups_perm h)
  exact TypeRef.key_injective (Std.LawfulEqOrd.eq_of_compare hab)

/-- Each reference of a sorted set has a smaller key than all that follow it. -/
theorem TypeRef.pairwise_sortedSet (types : List TypeRef) :
    (TypeRef.sortedSet types).Pairwise fun s t => s.key < t.key := by
  have hsorted := pairwise_sortWith (compareOn TypeRef.key) types.eraseDups
  have hdistinct : (TypeRef.sortedSet types).Nodup :=
    (sortWith_perm _ _).nodup_iff.2 (nodup_eraseDups types)
  refine (hsorted.and hdistinct).imp fun {s t} hst => ?_
  exact lt_of_isLE_of_ne hst.1 fun hkey => hst.2 (TypeRef.key_injective hkey)

theorem TypeRef.nodup_of_pairwise_lt {types : List TypeRef}
    (h : types.Pairwise fun s t => s.key < t.key) : types.Nodup :=
  nodup_of_strict_order String.lt_asymm h

/-- References in strict order are the sorted set of whatever has the same references. -/
theorem TypeRef.eq_sortedSet {xs ys : List TypeRef}
    (hsorted : xs.Pairwise fun s t => s.key < t.key) (h : ∀ t, t ∈ xs ↔ t ∈ ys) :
    xs = TypeRef.sortedSet ys :=
  eq_of_strict_order String.lt_asymm hsorted (TypeRef.pairwise_sortedSet ys) fun t => by
    rw [TypeRef.mem_sortedSet, h]

/-- To drop the neighbours that have the key of the one before them is to drop no reference. -/
theorem TypeRef.mem_destutter' {s t : TypeRef} {types : List TypeRef} :
    t ∈ types.destutter' (fun s t => s.key ≠ t.key) s ↔ t ∈ s :: types := by
  induction types generalizing s with
  | nil => rw [List.destutter'_nil]
  | cons u types ih =>
      rw [List.destutter'_cons]
      split
      · rw [List.mem_cons, ih, List.mem_cons (a := t) (b := s)]
      · next hkey =>
          rw [TypeRef.key_injective (not_not.1 hkey), ih]
          simp

/-- Sorts references by key, and drops those that have the key of the one before them. -/
def TypeRef.collapsed (types : List TypeRef) : List TypeRef :=
  (sortWith (compareOn TypeRef.key) types).destutter fun s t => s.key ≠ t.key

/-- In a sorted list equal references are neighbours, so collapsing leaves each once. -/
theorem TypeRef.collapsed_eq_sortedSet (types : List TypeRef) :
    TypeRef.collapsed types = TypeRef.sortedSet types := by
  have hsublist : (TypeRef.collapsed types).Sublist (sortWith (compareOn TypeRef.key) types) :=
    List.destutter_sublist _ _
  have hsorted := (pairwise_sortWith (compareOn TypeRef.key) types).sublist hsublist
  refine TypeRef.eq_sortedSet ?_ fun t => ?_
  · exact pairwise_lt_of_isChain hsorted (List.isChain_destutter _ _)
  · rw [← mem_sortWith (compareOn TypeRef.key) types t, TypeRef.collapsed]
    cases sortWith (compareOn TypeRef.key) types with
    | nil => rw [List.destutter_nil]
    | cons s rest => rw [List.destutter_cons', TypeRef.mem_destutter']

/-- What a sorted set is: the references in strict order, each of them and no other. -/
theorem TypeRef.eq_sortedSet_iff {types types' : List TypeRef} : types' = TypeRef.sortedSet types ↔
    (types'.Pairwise fun s t => s.key < t.key) ∧ ∀ t, t ∈ types' ↔ t ∈ types := by
  constructor
  · rintro rfl
    exact ⟨TypeRef.pairwise_sortedSet types, TypeRef.mem_sortedSet types⟩
  · exact fun h => TypeRef.eq_sortedSet h.1 h.2

theorem TypeRef.sortedSet_eq_iff {types types' : List TypeRef} :
    TypeRef.sortedSet types = TypeRef.sortedSet types' ↔ ∀ t, t ∈ types ↔ t ∈ types' := by
  refine ⟨fun h t => ?_, TypeRef.sortedSet_congr⟩
  rw [← TypeRef.mem_sortedSet types, h, TypeRef.mem_sortedSet]

/-- **Sets of references have one form.** A key tells a reference from every other. What is left of
    references that are sorted by key, when neighbours with one key are collapsed, is in strict
    order and has the same references, and nothing else is and has; so it is the same for two lists
    just if they have the same references, and to do it again changes nothing. -/
theorem TypeRef.sortedSet_normal_form :
    (∀ s t : TypeRef, s.key = t.key ↔ s = t) ∧ ∀ types : List TypeRef,
      TypeRef.collapsed types = TypeRef.sortedSet types ∧
      (∀ types', types' = TypeRef.sortedSet types ↔
        (types'.Pairwise fun s t => s.key < t.key) ∧ ∀ t, t ∈ types' ↔ t ∈ types) ∧
      (∀ types', TypeRef.sortedSet types = TypeRef.sortedSet types' ↔
        ∀ t, t ∈ types ↔ t ∈ types') ∧
      TypeRef.sortedSet (TypeRef.sortedSet types) = TypeRef.sortedSet types := by
  refine ⟨fun s t => TypeRef.key_injective.eq_iff, fun types =>
    ⟨TypeRef.collapsed_eq_sortedSet types, fun _ => TypeRef.eq_sortedSet_iff,
      fun _ => TypeRef.sortedSet_eq_iff, ?_⟩⟩
  exact TypeRef.sortedSet_eq_iff.2 (TypeRef.mem_sortedSet types)

/-- References of all kinds, some of them twice, with texts that look like other keys. -/
example : TypeRef.collapsed
    [.literal "named:Text", .primitive .string, .named "Text", .idReference, .named "literal:",
      .primitive .string, .named "Text"] =
    [.idReference, .literal "named:Text", .named "Text", .named "literal:",
      .primitive .string] := by
  decide +kernel

end Ontotype

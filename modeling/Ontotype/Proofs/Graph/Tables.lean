import Ontotype.Proofs.Graph.Hierarchy

set_option autoImplicit false

/-! # Numbers and names

A thing of the graph is known by its number, its place in a table, and by its name, the IRI in its
entry. As long as no two entries of a table have one IRI, each determines the other. -/

namespace Ontotype

/-! ## Tables -/

section Table

variable {α β : Type} [Inhabited α]

theorem map_range_getD (xs : List α) :
    (List.range xs.length).map (fun i => (xs[i]?).getD default) = xs := by
  refine List.ext_getElem (by simp) fun i h₁ h₂ => ?_
  simp [List.getElem?_eq_getElem h₂]

theorem getD_mem {xs : List α} {i : Nat} (h : i < xs.length) : (xs[i]?).getD default ∈ xs := by
  rw [List.getElem?_eq_getElem h]
  exact List.getElem_mem h

/-- In a table without repeated names, a name determines its place. -/
theorem eq_of_name_eq {xs : List α} {f : α → β} (hnodup : (xs.map f).Nodup) {i j : Nat}
    (hi : i < xs.length) (hj : j < xs.length)
    (h : f ((xs[i]?).getD default) = f ((xs[j]?).getD default)) : i = j := by
  have hmap : ((List.range xs.length).map fun i => f ((xs[i]?).getD default)).Nodup := by
    have hrange := congrArg (List.map f) (map_range_getD xs)
    rw [List.map_map] at hrange
    exact hrange ▸ hnodup
  exact List.inj_on_of_nodup_map hmap (List.mem_range.2 hi) (List.mem_range.2 hj) h

/-- The entries of a table in which every entry is changed. -/
theorem getD_map {f : α → α} (hf : f default = default) (xs : List α)
    (i : Nat) : ((xs.map f)[i]?).getD default = f ((xs[i]?).getD default) := by
  rw [List.getElem?_map]
  cases xs[i]? with
  | none => exact hf.symm
  | some x => rfl

/-- What holds of all entries of a table, and of the one that is read where there is none. -/
theorem forall_getD {P : α → Prop} {xs : List α} (h : ∀ x ∈ xs, P x)
    (hdefault : P default) (i : Nat) : P ((xs[i]?).getD default) := by
  cases hi : xs[i]? with
  | none => exact hdefault
  | some x => exact h x (List.mem_of_getElem? hi)

end Table

/-- To change one entry of a table in which every entry is changed. -/
theorem modify_map {α β : Type} {f : α → β} {m : α → α} {m' : β → β} (h : ∀ x, m' (f x) = f (m x))
    (xs : List α) (i : Nat) : (xs.map f).modify i m' = (xs.modify i m).map f := by
  refine List.ext_getElem? fun j => ?_
  rw [List.getElem?_modify, List.getElem?_map, List.getElem?_map, List.getElem?_modify]
  cases xs[j]? with
  | none => rfl
  | some x =>
      show some (if i = j then m' (f x) else f x) = some (f (if i = j then m x else x))
      rw [h, apply_ite f]

/-- To change an entry of a table with one more entry. -/
theorem modify_append_of_lt {α : Type} {f : α → α} (y : α) : ∀ {xs : List α} {i : Nat},
    i < xs.length → (xs ++ [y]).modify i f = xs.modify i f ++ [y]
  | [], _, hi => absurd hi (Nat.not_lt_zero _)
  | x :: xs, 0, _ => rfl
  | x :: xs, i + 1, hi => by
      rw [List.cons_append, List.modify_succ_cons, List.modify_succ_cons,
        modify_append_of_lt y (Nat.lt_of_succ_lt_succ hi), List.cons_append]

theorem modify_append_length {α : Type} (f : α → α) (y : α) :
    ∀ xs : List α, (xs ++ [y]).modify xs.length f = xs ++ [f y]
  | [] => rfl
  | x :: xs => by
      rw [List.cons_append, List.length_cons, List.modify_succ_cons, modify_append_length f y xs,
        List.cons_append]

namespace Graph

variable {g : Graph} {a : Iri} {c d : ClassId} {p q : PropertyId} {v w : ValueId}

/-! ## Classes -/

/-- The IRIs of all classes, by number. -/
def classIris (g : Graph) : List Iri := g.classes.map ClassEntry.iri

theorem map_iri_ids (g : Graph) : g.ids.map g.iri = g.classIris := by
  have h := congrArg (List.map ClassEntry.iri) (map_range_getD g.classes)
  rwa [List.map_map] at h

theorem iri_eq (g : Graph) (c : ClassId) : g.iri c = (g.classIris[c]?).getD default := by
  rw [iri, entry, classIris, List.getElem?_map]
  cases g.classes[c]? <;> rfl

theorem iri_mem_classIris (hc : c ∈ g.ids) : g.iri c ∈ g.classIris :=
  map_iri_ids g ▸ List.mem_map_of_mem hc

theorem mem_classIris : a ∈ g.classIris ↔ ∃ c ∈ g.ids, g.iri c = a := by
  rw [← map_iri_ids, List.mem_map]

theorem eq_of_iri_eq (h : g.classIris.Nodup) (hc : c ∈ g.ids) (hd : d ∈ g.ids)
    (heq : g.iri c = g.iri d) : c = d :=
  eq_of_name_eq h (mem_ids.1 hc) (mem_ids.1 hd) heq

/-- What is found under an IRI depends on nothing but the IRIs of the classes. -/
theorem find?_eq (g : Graph) (a : Iri) :
    g.find? a = g.classIris.findIdx? fun b => decide (b = a) := by
  rw [classIris, List.findIdx?_map]
  rfl

theorem find?_congr {h : Graph} (heq : g.classIris = h.classIris) (a : Iri) :
    g.find? a = h.find? a := by
  rw [find?_eq, find?_eq, heq]

theorem isSome_find?_iff : (g.find? a).isSome = true ↔ a ∈ g.classIris := by
  rw [find?_eq, List.findIdx?_isSome, List.any_eq_true]
  constructor
  · rintro ⟨b, hb, heq⟩
    exact of_decide_eq_true heq ▸ hb
  · exact fun h => ⟨a, h, decide_eq_true rfl⟩

theorem find?_eq_none_iff : g.find? a = none ↔ a ∉ g.classIris := by
  rw [← isSome_find?_iff, Option.not_isSome_iff_eq_none]

theorem find?_eq_some_iff (h : g.classIris.Nodup) :
    g.find? a = some c ↔ c ∈ g.ids ∧ g.iri c = a := by
  constructor
  · exact fun hc => ⟨mem_ids_of_find? hc, iri_of_find? hc⟩
  · rintro ⟨hc, rfl⟩
    have hsome := isSome_find?_iff.2 (iri_mem_classIris hc)
    obtain ⟨d, hd⟩ := Option.isSome_iff_exists.1 hsome
    rw [hd, eq_of_iri_eq h (mem_ids_of_find? hd) hc (iri_of_find? hd)]

theorem find?_iri (h : g.classIris.Nodup) (hc : c ∈ g.ids) : g.find? (g.iri c) = some c :=
  (find?_eq_some_iff h).2 ⟨hc, rfl⟩

theorem size_eq (g : Graph) : g.size = g.classIris.length := by
  rw [size, classIris, List.length_map]

theorem ids_congr {h : Graph} (heq : g.classIris = h.classIris) : g.ids = h.ids := by
  unfold ids
  rw [size_eq, size_eq, heq]

/-! ## Properties and values -/

/-- The IRIs of all properties, by number. -/
def propertyIris (g : Graph) : List Iri := g.properties.map PropertyEntry.iri

/-- The IRIs of all enumeration values, by number. -/
def valueIris (g : Graph) : List Iri := g.values.map ValueEntry.iri

theorem property_mem (hp : p < g.properties.length) : g.property p ∈ g.properties := getD_mem hp

theorem property_iri_eq (g : Graph) (p : PropertyId) :
    (g.property p).iri = (g.propertyIris[p]?).getD default := by
  rw [property, propertyIris, List.getElem?_map]
  cases g.properties[p]? <;> rfl

theorem value_iri_eq (g : Graph) (v : ValueId) :
    (g.value v).iri = (g.valueIris[v]?).getD default := by
  rw [value, valueIris, List.getElem?_map]
  cases g.values[v]? <;> rfl

theorem eq_of_property_iri_eq (h : g.propertyIris.Nodup) (hp : p < g.properties.length)
    (hq : q < g.properties.length) (heq : (g.property p).iri = (g.property q).iri) : p = q :=
  eq_of_name_eq h hp hq heq

theorem eq_of_value_iri_eq (h : g.valueIris.Nodup) (hv : v < g.values.length)
    (hw : w < g.values.length) (heq : (g.value v).iri = (g.value w).iri) : v = w :=
  eq_of_name_eq h hv hw heq

theorem mem_propertyIris :
    a ∈ g.propertyIris ↔ ∃ p < g.properties.length, (g.property p).iri = a := by
  have h := congrArg (List.map PropertyEntry.iri) (map_range_getD g.properties)
  rw [propertyIris, ← h, List.map_map, List.mem_map]
  exact exists_congr fun p => and_congr_left fun _ => List.mem_range

theorem mem_valueIris : a ∈ g.valueIris ↔ ∃ v < g.values.length, (g.value v).iri = a := by
  have h := congrArg (List.map ValueEntry.iri) (map_range_getD g.values)
  rw [valueIris, ← h, List.map_map, List.mem_map]
  exact exists_congr fun v => and_congr_left fun _ => List.mem_range

end Graph

end Ontotype

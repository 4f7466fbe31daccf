import Mathlib.Data.List.FinRange
import Mathlib.Data.List.Forall2
import Ontotype.Proofs.Assembly.Findings
import Ontotype.Proofs.Declaration.Hiding

set_option autoImplicit false

/-! # Shared names are reported

Declarations are compared with those that were made before them. The findings about shared names are
therefore, in the order of the declarations, one for each that has the scoped name or the identifier
of an earlier one, and each tells of the latest such declaration (`nameCollisions_of_compile`). What
is hidden is not declared, and so it is not compared either. -/

namespace Ontotype

open Vocabulary

variable {o : Options} {ss : List Statement} {r : Compiled} {b : Build} {f : Diagnostic}

/-! ## The latest of several -/

section Latest

variable {α : Type} {xs : List α} {p : α → Bool} {x : α}

/-- The place `j` is the latest before `k` of which `P` holds. -/
def Latest {n : Nat} (P : Fin n → Prop) (k j : Fin n) : Prop :=
  j < k ∧ P j ∧ ∀ i, j < i → i < k → ¬ P i

/-- What is found first, going back from a place, is the latest before it. -/
theorem find?_reverse_take_eq_some_iff {k : Fin xs.length} :
    (xs.take k).reverse.find? p = some x ↔
      ∃ j, Latest (fun i => p xs[i] = true) k j ∧ xs[j] = x := by
  have hlength : (xs.take k).reverse.length = k := by
    rw [List.length_reverse, List.length_take, Nat.min_eq_left k.isLt.le]
  -- going back `i` steps from `k` leads to the place `k - 1 - i`
  have hback : ∀ i (hi : i < (xs.take k).reverse.length),
      (xs.take k).reverse[i] = xs[(k : Nat) - 1 - i] := by
    intro i hi
    simp
  rw [List.find?_eq_some_iff_getElem]
  constructor
  · rintro ⟨hp, i, hi, hx, hbefore⟩
    rw [hlength] at hi
    rw [hback] at hx
    refine ⟨⟨k - 1 - i, by omega⟩, ⟨?_, ?_, ?_⟩, hx⟩
    · exact Fin.lt_def.2 (by dsimp only; omega)
    · show p xs[(k : Nat) - 1 - i] = true
      rw [hx]
      exact hp
    · intro j hij hjk
      have hj := hbefore (k - 1 - j) (by rw [Fin.lt_def] at hij hjk; dsimp only at hij; omega)
      rw [hback] at hj
      have heq : (k : Nat) - 1 - (k - 1 - j) = j := by rw [Fin.lt_def] at hjk; omega
      simp only [heq] at hj
      simpa using hj
  · rintro ⟨j, ⟨hjk, hp, hbetween⟩, rfl⟩
    rw [Fin.lt_def] at hjk
    have heq : (k : Nat) - 1 - (k - 1 - j) = j := by omega
    refine ⟨hp, k - 1 - j, by omega, ?_, ?_⟩
    · rw [hback]
      simp only [heq]
      rfl
    · intro i hi
      rw [hback]
      have hplace := hbetween ⟨k - 1 - i, by omega⟩ (Fin.lt_def.2 (by dsimp only; omega))
        (Fin.lt_def.2 (by dsimp only; omega))
      simpa using hplace

theorem find?_reverse_take_eq_none_iff {k : Fin xs.length} :
    (xs.take k).reverse.find? p = none ↔ ∀ j < k, ¬ p xs[j] = true := by
  rw [List.find?_eq_none]
  simp only [List.mem_reverse, List.mem_take_iff_getElem]
  constructor
  · exact fun h j hj => h _ ⟨j, by omega, rfl⟩
  · rintro h _ ⟨j, hj, rfl⟩
    exact h ⟨j, by omega⟩ (Fin.lt_def.2 (by dsimp only; omega))

end Latest

/-! ## Places of shared names -/

section Places

variable (ds : List Declaration)

/-- The places of the declarations that share a name with an earlier one. -/
def sharingPlaces : List (Fin ds.length) :=
  (List.finRange ds.length).filter fun k =>
    ∃ j < k, ds[j].scopedName = ds[k].scopedName ∨ ds[j].ident = ds[k].ident

/-- What is to be reported of the declaration at the place `k`. A shared scoped name outweighs a
    shared identifier. -/
inductive Shares (k : Fin ds.length) : Diagnostic → Prop
  | scopedName {j : Fin ds.length}
      (latest : Latest (fun i => ds[i].scopedName = ds[k].scopedName) k j) :
      Shares k (.sharedScopedName ds[k].iri ds[k].scopedName ds[j].iri)
  | ident {j : Fin ds.length} (unshared : ∀ i < k, ds[i].scopedName ≠ ds[k].scopedName)
      (latest : Latest (fun i => ds[i].ident = ds[k].ident) k j) :
      Shares k (.sharedIdent ds[k].iri ds[k].ident ds[j].iri)

variable {ds} {k : Fin ds.length}

theorem collision?_eq_some_iff :
    collision? (ds.take k).reverse ds[k] = some f ↔ Shares ds k f := by
  rw [collision?]
  constructor
  · intro h
    split at h
    · next e he =>
        obtain ⟨j, hlatest, rfl⟩ := find?_reverse_take_eq_some_iff.1 he
        rw [← Option.some.inj h]
        exact .scopedName (by simpa using hlatest)
    · next hnone =>
        obtain ⟨e, he, rfl⟩ := Option.map_eq_some_iff.1 h
        obtain ⟨j, hlatest, rfl⟩ := find?_reverse_take_eq_some_iff.1 he
        have hunshared := find?_reverse_take_eq_none_iff.1 hnone
        exact .ident (by simpa using hunshared) (by simpa using hlatest)
  · intro h
    cases h with
    | scopedName hlatest =>
        rw [find?_reverse_take_eq_some_iff.2 ⟨_, by simpa using hlatest, rfl⟩]
    | ident hunshared hlatest =>
        rw [find?_reverse_take_eq_none_iff.2 (by simpa using hunshared)]
        dsimp only
        rw [find?_reverse_take_eq_some_iff.2 ⟨_, by simpa using hlatest, rfl⟩]
        rfl

theorem collision?_eq_none_iff : collision? (ds.take k).reverse ds[k] = none ↔
    ∀ j < k, ds[j].scopedName ≠ ds[k].scopedName ∧ ds[j].ident ≠ ds[k].ident := by
  rw [collision?]
  split
  · next e he =>
      obtain ⟨j, ⟨hj, hname, _⟩, _⟩ := find?_reverse_take_eq_some_iff.1 he
      refine iff_of_false (by simp) fun h => (h j hj).1 (of_decide_eq_true hname)
  · next hnone =>
      have hunshared := find?_reverse_take_eq_none_iff.1 hnone
      rw [Option.map_eq_none_iff, find?_reverse_take_eq_none_iff]
      simp only [decide_eq_true_iff] at hunshared ⊢
      exact ⟨fun h j hj => ⟨hunshared j hj, h j hj⟩, fun h j hj => (h j hj).2⟩

theorem mem_sharingPlaces :
    k ∈ sharingPlaces ds ↔ (collision? (ds.take k).reverse ds[k]).isSome = true := by
  rw [sharingPlaces, List.mem_filter, Option.isSome_iff_ne_none, ne_eq, collision?_eq_none_iff]
  simp only [List.mem_finRange, true_and, decide_eq_true_iff, not_forall, ← not_or, not_not,
    exists_prop]

end Places

/-! ## The findings about shared names -/

/-- Every declaration is compared with those that come before it. -/
theorem collisions_eq_filterMap (ds : List Declaration) : ∀ before : List Declaration,
    collisions before ds = (List.finRange ds.length).filterMap fun k : Fin ds.length =>
      collision? ((ds.take k).reverse ++ before) ds[k] := by
  induction ds with
  | nil => exact fun _ => rfl
  | cons d ds ih =>
      intro before
      have hplaces : List.finRange (d :: ds).length = 0 :: (List.finRange ds.length).map Fin.succ :=
        List.finRange_succ
      have hfirst : collision? (((d :: ds).take (0 : Fin (d :: ds).length)).reverse ++ before)
          (d :: ds)[(0 : Fin (d :: ds).length)] = collision? before d := rfl
      have hrest : ∀ k : Fin ds.length,
          collision? (((d :: ds).take k.succ).reverse ++ before) (d :: ds)[k.succ] =
            collision? ((ds.take k).reverse ++ d :: before) ds[k] := by
        intro k
        simp
      rw [collisions, ih, hplaces, List.filterMap_cons, List.filterMap_map, hfirst]
      simp only [Function.comp_def, hrest]
      cases collision? before d <;> rfl

theorem forall₂_filter_filterMap {α β : Type} {R : α → β → Prop} {p : α → Bool} {f : α → Option β}
    (hp : ∀ x, p x = (f x).isSome) (hf : ∀ x y, f x = some y → R x y) (xs : List α) :
    List.Forall₂ R (xs.filter p) (xs.filterMap f) := by
  induction xs with
  | nil => exact .nil
  | cons x xs ih =>
      rw [List.filter_cons, List.filterMap_cons, hp]
      cases h : f x with
      | none => exact ih
      | some y => exact .cons (hf x y h) ih

/-- The declarations that are reported are those that share a name with an earlier one. -/
theorem forall₂_collisions (ds : List Declaration) :
    List.Forall₂ (Shares ds) (sharingPlaces ds) (collisions [] ds) := by
  rw [collisions_eq_filterMap]
  simp only [List.append_nil]
  refine forall₂_filter_filterMap (fun k => ?_) (fun k f => collision?_eq_some_iff.1) _
  rw [Bool.eq_iff_iff, ← mem_sharingPlaces, sharingPlaces, List.mem_filter]
  simp only [List.mem_finRange, true_and]

theorem nodup_map_iff {α β : Type} {f : α → β} {xs : List α} :
    (xs.map f).Nodup ↔ ∀ k : Fin xs.length, ∀ j < k, f xs[j] ≠ f xs[k] := by
  rw [List.Nodup, List.pairwise_map, List.pairwise_iff_getElem]
  exact ⟨fun h k j hj => h j k j.isLt k.isLt hj, fun h j k hj hk hjk => h ⟨k, hk⟩ ⟨j, hj⟩ hjk⟩

theorem collisions_eq_nil_iff (ds : List Declaration) : collisions [] ds = [] ↔
    (ds.map Declaration.scopedName).Nodup ∧ (ds.map Declaration.ident).Nodup := by
  rw [collisions_eq_filterMap, List.filterMap_eq_nil_iff, nodup_map_iff, nodup_map_iff]
  simp only [List.append_nil, List.mem_finRange, true_imp_iff, collision?_eq_none_iff, forall_and]

/-- What is found while an ontology is assembled is not about shared names. -/
theorem kind_ne_of_mem_findings (h : assemble (topicsOf ss) = .ok b) (hf : f ∈ b.findings) :
    f.kind ≠ .nameCollision := by
  rw [(findings_of_assemble h).mem_iff, findingsOf, List.mem_append, List.mem_map,
    List.mem_map] at hf
  rcases hf with ⟨s, _, rfl⟩ | ⟨x, _, rfl⟩
  · exact show DiagnosticKind.unrecognizedStatement ≠ .nameCollision by decide
  · exact show DiagnosticKind.duplicateComment ≠ .nameCollision by decide

theorem nameCollisions_eq (h : compile o ss = .ok r) :
    Diagnostic.ofKind .nameCollision r.findings = collisions [] r.declarations := by
  obtain ⟨_, b, hb, rfl⟩ := compile_eq_ok_iff.1 h
  have hnone : Diagnostic.ofKind .nameCollision b.findings = [] :=
    List.filter_eq_nil_iff.2 fun f hf heq =>
      kind_ne_of_mem_findings hb hf (of_decide_eq_true heq)
  have hall : Diagnostic.ofKind .nameCollision (collisions [] (declarationsOf b.graph o)) =
      collisions [] (declarationsOf b.graph o) :=
    List.filter_eq_self.2 fun f hf => decide_eq_true (kind_of_mem_collisions [] hf)
  show Diagnostic.ofKind .nameCollision (b.findings ++ _) = _
  rw [Diagnostic.ofKind, List.filter_append]
  exact (congrArg (· ++ _) hnone).trans hall

/-- A class that is hidden is not declared. -/
theorem iri_ne_of_hidden (h : compile o ss = .ok r) (ho : o.includeDeprecated = false)
    {c : ClassId} (hc : c ∈ r.graph.ids) (hdeprecated : r.graph.isDeprecated c = true)
    {d : Declaration} (hd : d ∈ r.declarations) : d.iri ≠ r.graph.iri c := by
  have hp := portrays_of_compile h
  rw [(compiled_of_compile h).2.1, mem_declarationsOf, ho] at hd
  obtain ⟨c', hc', hvisible, rfl⟩ := hd
  intro heq
  rw [Graph.eq_of_iri_eq hp.nodup_classIris hc' hc heq, Resolver.visible_false, hdeprecated]
    at hvisible
  exact absurd hvisible (by decide)

/-- **Shared names are reported exactly.** The findings about shared names are, in order, one for
    each declaration that has the scoped name or the identifier of an earlier one, and it tells of
    the latest of those. So there is none if and only if all scoped names and all identifiers are
    distinct; and no class that is hidden takes part. -/
theorem nameCollisions_of_compile (h : compile o ss = .ok r) :
    List.Forall₂ (Shares r.declarations) (sharingPlaces r.declarations)
        (Diagnostic.ofKind .nameCollision r.findings) ∧
      (Diagnostic.ofKind .nameCollision r.findings = [] ↔
        (r.declarations.map Declaration.scopedName).Nodup ∧
          (r.declarations.map Declaration.ident).Nodup) ∧
      (o.includeDeprecated = false → ∀ c ∈ r.graph.ids, r.graph.isDeprecated c = true →
        ∀ d ∈ r.declarations, d.iri ≠ r.graph.iri c) := by
  rw [nameCollisions_eq h]
  refine ⟨forall₂_collisions _, collisions_eq_nil_iff _, ?_⟩
  exact fun ho c hc hdeprecated d hd => iri_ne_of_hidden h ho hc hdeprecated hd

/-- An ontology of three things, two of which are one term in its two editions, and of a person in
    both editions, one of which is superseded. -/
def thingStatements : List Statement :=
  let things : List Iri :=
    [Edition.https.term "Thing", Edition.http.term "Thing", ⟨"https://example.org/Thing"⟩]
  let persons : List Iri := [Edition.https.term "Person", Edition.http.term "Person"]
  ((things ++ persons).map fun a =>
      { subject := a, predicate := rdfType, object := .entity rdfsClass })
    ++ [{ subject := Edition.http.term "Person", predicate := Edition.https.term "supersededBy",
          object := .entity (Edition.https.term "Person") }]

theorem nameCollisions_thingStatements : ∃ r, compile {} thingStatements = .ok r ∧
    List.Forall₂ (Shares r.declarations) (sharingPlaces r.declarations)
      [.sharedIdent ⟨"https://example.org/Thing"⟩ "Thing" (Edition.http.term "Thing"),
       .sharedScopedName (Edition.https.term "Thing") "Thing" (Edition.http.term "Thing")] ∧
    ¬ ((r.declarations.map Declaration.scopedName).Nodup ∧
      (r.declarations.map Declaration.ident).Nodup) ∧
    ∀ d ∈ r.declarations, d.iri ≠ Edition.http.term "Person" := by
  have hall : (compile {} thingStatements).map (fun r =>
      (Diagnostic.ofKind .nameCollision r.findings, decide (∃ c ∈ r.graph.ids,
        r.graph.isDeprecated c = true ∧ r.graph.iri c = Edition.http.term "Person"))) = .ok
      ([.sharedIdent ⟨"https://example.org/Thing"⟩ "Thing" (Edition.http.term "Thing"),
        .sharedScopedName (Edition.https.term "Thing") "Thing" (Edition.http.term "Thing")],
        true) := by decide +kernel
  obtain ⟨r, hr, hparts⟩ := exists_of_map_eq_ok hall
  obtain ⟨hfindings, hhidden⟩ := Prod.mk.inj hparts
  obtain ⟨c, hc, hdeprecated, hiri⟩ := of_decide_eq_true hhidden
  obtain ⟨hshares, hnil, hnone⟩ := nameCollisions_of_compile hr
  rw [hfindings] at hshares hnil
  refine ⟨r, hr, hshares, fun hnodup => ?_, fun d hd => ?_⟩
  · exact absurd (hnil.2 hnodup) (by simp)
  · rw [← hiri]
    exact hnone rfl c hc hdeprecated d hd

end Ontotype

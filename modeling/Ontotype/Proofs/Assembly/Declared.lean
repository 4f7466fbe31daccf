import Ontotype.Assembly.Stages
import Ontotype.Proofs.Graph.Tables
import Ontotype.Proofs.Rdf.Topics

set_option autoImplicit false

/-! # The declared classes

Before any statement is read, the graph holds its classes and nothing else: the builtin classes and
their union, and one class for each subject that describes one. The entry of a class is then a
function of its IRI (`declaredEntry`), whatever order the topics stand in. -/

namespace Ontotype

open Vocabulary

variable {edition : Edition} {ss : List Statement} {g : Graph} {t : Topic} {ts : List Topic}
  {a : Iri} {c u m : ClassId}

/-! ## Entries by IRI -/

/-- The entry that the class with the IRI `a` is declared with. -/
def declaredEntry (edition : Edition) (ss : List Statement) (a : Iri) : ClassEntry :=
  match builtins.find? fun b => edition.term b.1 = a with
  | some (_, type) => .builtin a (.primitive type)
  | none =>
    if a = edition.term "DataType" then .ofKind a .dataTypeUnion
    else if (topicAbout ss a).isDataType then .builtin a (.primitive .string)
    else .ofKind a .ordinary

/-- The IRIs of the classes that need no statement: the builtin classes and their union. -/
def seedIris (edition : Edition) : List Iri :=
  builtins.map (fun b => edition.term b.1) ++ [edition.term "DataType"]

/-- Every declared entry is that of a builtin class, or of a class that no more is known of than
    its kind. -/
theorem declaredEntry_cases (edition : Edition) (ss : List Statement) (a : Iri) :
    (∃ type, declaredEntry edition ss a = .builtin a (.primitive type)) ∨
      declaredEntry edition ss a = .ofKind a .dataTypeUnion ∧ a = edition.term "DataType" ∨
        declaredEntry edition ss a = .ofKind a .ordinary := by
  rw [declaredEntry]
  split
  · exact Or.inl ⟨_, rfl⟩
  · split
    · next hunion => exact Or.inr (Or.inl ⟨rfl, hunion⟩)
    · split
      · exact Or.inl ⟨_, rfl⟩
      · exact Or.inr (Or.inr rfl)

theorem declaredEntry_of_not_mem (h : a ∉ seedIris edition) : declaredEntry edition ss a =
    if (topicAbout ss a).isDataType then .builtin a (.primitive .string)
    else .ofKind a .ordinary := by
  rw [seedIris, List.mem_append, not_or, List.mem_singleton] at h
  have hfind : (builtins.find? fun b => edition.term b.1 = a) = none := by
    refine List.find?_eq_none.2 fun b hb heq => h.1 ?_
    exact List.mem_map.2 ⟨b, hb, of_decide_eq_true heq⟩
  rw [declaredEntry, hfind]
  exact if_neg h.2

/-- What is said about a builtin class, or about the union, does not change its entry. -/
theorem declaredEntry_of_mem (h : a ∈ seedIris edition) :
    declaredEntry edition ss a = declaredEntry edition [] a := by
  unfold declaredEntry
  split
  · rfl
  · next hfind =>
      rw [seedIris, List.mem_append, List.mem_singleton] at h
      have hunion : a = edition.term "DataType" := by
        refine h.resolve_left fun hmem => ?_
        obtain ⟨b, hb, heq⟩ := List.mem_map.1 hmem
        exact List.find?_eq_none.1 hfind b hb (decide_eq_true heq)
      rw [if_pos hunion, if_pos hunion]

@[simp] theorem iri_declaredEntry : (declaredEntry edition ss a).iri = a := by
  rcases declaredEntry_cases edition ss a with ⟨type, h⟩ | ⟨h, _⟩ | h <;> rw [h] <;> rfl

@[simp] theorem comment_declaredEntry : (declaredEntry edition ss a).comment = none := by
  rcases declaredEntry_cases edition ss a with ⟨type, h⟩ | ⟨h, _⟩ | h <;> rw [h] <;> rfl

theorem marked_declaredEntry : (declaredEntry edition ss a).marked =
    decide ((declaredEntry edition ss a).kind ≠ .ordinary) := by
  rcases declaredEntry_cases edition ss a with ⟨type, h⟩ | ⟨h, _⟩ | h <;> rw [h] <;> rfl

/-- No class is declared as another name of anything but a primitive type. -/
theorem aliases_declaredEntry {type : TypeRef} (h : type ∈ (declaredEntry edition ss a).aliases) :
    ∃ p, type = .primitive p := by
  rcases declaredEntry_cases edition ss a with ⟨p, heq⟩ | ⟨heq, _⟩ | heq <;> rw [heq] at h
  · exact ⟨p, List.mem_singleton.1 h⟩
  · exact absurd h List.not_mem_nil
  · exact absurd h List.not_mem_nil

/-- Builtin classes alone are declared as other names of types. -/
theorem aliases_declaredEntry_ne_nil_iff : (declaredEntry edition ss a).aliases ≠ [] ↔
    (declaredEntry edition ss a).kind = .builtin := by
  rcases declaredEntry_cases edition ss a with ⟨type, h⟩ | ⟨h, _⟩ | h <;> rw [h] <;>
    simp [ClassEntry.builtin, ClassEntry.ofKind]

theorem eq_of_kind_declaredEntry (h : (declaredEntry edition ss a).kind = .dataTypeUnion) :
    a = edition.term "DataType" := by
  rcases declaredEntry_cases edition ss a with ⟨p, heq⟩ | ⟨_, ha⟩ | heq
  · rw [heq] at h
    exact absurd h (by simp [ClassEntry.builtin, ClassEntry.ofKind])
  · exact ha
  · rw [heq] at h
    exact absurd h (by simp [ClassEntry.ofKind])

theorem kind_declaredEntry_builtin : (declaredEntry edition ss a).kind = .builtin ↔
    (∃ b ∈ builtins, edition.term b.1 = a) ∨
      a ∉ seedIris edition ∧ ∃ b, Says ss a .type b ∧ b.isSchema "DataType" = true := by
  by_cases hbuiltin : ∃ b ∈ builtins, edition.term b.1 = a
  · refine iff_of_true ?_ (Or.inl hbuiltin)
    obtain ⟨b, hb, hterm⟩ := hbuiltin
    rw [declaredEntry]
    split
    · rfl
    · next hnone => exact absurd (decide_eq_true hterm) (List.find?_eq_none.1 hnone b hb)
  · rw [or_iff_right hbuiltin]
    have hseed : a ∈ seedIris edition ↔ a = edition.term "DataType" := by
      rw [seedIris, List.mem_append, List.mem_map, List.mem_singleton, or_iff_right hbuiltin]
    by_cases hunion : a = edition.term "DataType"
    · refine iff_of_false (fun hkind => ?_) fun h => h.1 (hseed.2 hunion)
      rw [declaredEntry_of_mem (hseed.2 hunion), hunion] at hkind
      exact absurd hkind (by cases edition <;> decide +kernel)
    · have hnot : a ∉ seedIris edition := fun h => hunion (hseed.1 h)
      rw [declaredEntry_of_not_mem hnot, and_iff_right hnot, ← isDataType_topicAbout]
      split
      · next hdata => exact iff_of_true rfl hdata
      · next hdata => exact iff_of_false (by simp [ClassEntry.ofKind]) hdata

theorem kind_declaredEntry_union :
    (declaredEntry edition ss a).kind = .dataTypeUnion ↔ a = edition.term "DataType" := by
  refine ⟨eq_of_kind_declaredEntry, ?_⟩
  rintro rfl
  rw [declaredEntry_of_mem (by simp [seedIris])]
  cases edition <;> decide +kernel

/-- The classes that need no declaration are the builtin ones, their union, and data types. -/
theorem kind_declaredEntry_ne_ordinary : (declaredEntry edition ss a).kind ≠ .ordinary ↔
    a ∈ seedIris edition ∨ ∃ b, Says ss a .type b ∧ b.isSchema "DataType" = true := by
  have hkinds : (declaredEntry edition ss a).kind ≠ .ordinary ↔
      (declaredEntry edition ss a).kind = .builtin ∨
        (declaredEntry edition ss a).kind = .dataTypeUnion := by
    cases (declaredEntry edition ss a).kind <;> simp
  have hseed : a ∈ seedIris edition ↔
      (∃ b ∈ builtins, edition.term b.1 = a) ∨ a = edition.term "DataType" := by
    rw [seedIris, List.mem_append, List.mem_map, List.mem_singleton]
  rw [hkinds, kind_declaredEntry_builtin, kind_declaredEntry_union, or_right_comm, ← hseed]
  by_cases hmem : a ∈ seedIris edition <;> simp [hmem]

/-! ## Graphs of declared classes -/

/-- The graph holds classes, each with the entry that its IRI gives it, the union of those that are
    builtin, and nothing else. -/
structure Declares (edition : Edition) (ss : List Statement) (g : Graph) : Prop where
  nodup : g.classIris.Nodup
  seeded : ∃ rest, g.classIris = seedIris edition ++ rest
  entries : ∀ e ∈ g.classes, e = declaredEntry edition ss e.iri
  unionMember : ∀ u m, (u, m) ∈ g.unionMember.pairs ↔ u = unionId ∧ m ∈ g.ids ∧ g.kind m = .builtin
  nothingElse : { g with classes := [], unionMember := .empty } = Graph.empty

theorem classIris_seedGraph (edition : Edition) :
    (seedGraph edition).classIris = seedIris edition := by
  cases edition <;> rfl

theorem declares_seedGraph (edition : Edition) (ss : List Statement) :
    Declares edition ss (seedGraph edition) where
  nodup := by
      rw [classIris_seedGraph]
      cases edition <;> decide +kernel
  seeded := ⟨[], by rw [classIris_seedGraph, List.append_nil]⟩
  entries e he := by
      have hall : ∀ e ∈ (seedGraph edition).classes, e = declaredEntry edition [] e.iri := by
        cases edition <;> decide +kernel
      have hmem : e.iri ∈ seedIris edition :=
        classIris_seedGraph edition ▸ List.mem_map_of_mem he
      rw [declaredEntry_of_mem hmem]
      exact hall e he
  unionMember u m := by
      have hpairs : (seedGraph edition).unionMember.pairs =
          (List.range builtins.length).map fun c => (unionId, c) := by cases edition <;> rfl
      have hkind : ∀ m ∈ (seedGraph edition).ids,
          ((seedGraph edition).kind m = .builtin ↔ m < builtins.length) := by
        cases edition <;> decide +kernel
      have hids : ∀ m < builtins.length, m ∈ (seedGraph edition).ids := by
        cases edition <;> decide +kernel
      simp only [hpairs, List.mem_map, List.mem_range, Prod.mk.injEq, exists_eq_right_right]
      constructor
      · rintro ⟨hm, rfl⟩
        exact ⟨rfl, hids m hm, (hkind m (hids m hm)).2 hm⟩
      · rintro ⟨rfl, hm, hbuiltin⟩
        exact ⟨(hkind m hm).1 hbuiltin, rfl⟩
  nothingElse := by cases edition <;> rfl

/-- The graph with one more class, which joins the union if it is builtin. -/
def Graph.declare (g : Graph) (e : ClassEntry) : Graph :=
  { g with
    classes := g.classes ++ [e]
    unionMember := if e.kind = .builtin then g.unionMember.add unionId g.size else g.unionMember }

theorem Graph.classIris_declare (g : Graph) (e : ClassEntry) :
    (g.declare e).classIris = g.classIris ++ [e.iri] := by
  simp [declare, classIris]

theorem Graph.mem_ids_declare (g : Graph) (e : ClassEntry) :
    c ∈ (g.declare e).ids ↔ c ∈ g.ids ∨ c = g.size := by
  rw [mem_ids, mem_ids, size_eq, size_eq, classIris_declare, List.length_append,
    List.length_singleton, Nat.lt_succ_iff, Nat.le_iff_lt_or_eq]

theorem Graph.entry_declare_of_mem (e : ClassEntry) (hc : c ∈ g.ids) :
    (g.declare e).entry c = g.entry c := by
  rw [entry, entry, declare, List.getElem?_append_left (mem_ids.1 hc)]

theorem Graph.entry_declare_size (g : Graph) (e : ClassEntry) :
    (g.declare e).entry g.size = e := by
  simp [entry, declare, size]

theorem Declares.declare (h : Declares edition ss g) (ha : a ∉ g.classIris) :
    Declares edition ss (g.declare (declaredEntry edition ss a)) where
  nodup := by
      rw [Graph.classIris_declare, iri_declaredEntry]
      exact List.nodup_append_comm.1 (List.nodup_cons.2 ⟨ha, h.nodup⟩)
  seeded := by
      obtain ⟨rest, hrest⟩ := h.seeded
      rw [Graph.classIris_declare, hrest, List.append_assoc]
      exact ⟨_, rfl⟩
  entries e he := by
      rcases List.mem_append.1 he with he | he
      · exact h.entries e he
      · rw [List.mem_singleton.1 he, iri_declaredEntry]
  unionMember u m := by
      -- the only kind that is new is that of the class that is added
      have hold : m ∈ g.ids → (g.declare (declaredEntry edition ss a)).kind m = g.kind m :=
        fun hm => congrArg ClassEntry.kind (Graph.entry_declare_of_mem _ hm)
      have hnew : (g.declare (declaredEntry edition ss a)).kind g.size =
          (declaredEntry edition ss a).kind := congrArg ClassEntry.kind (g.entry_declare_size _)
      have hsize : g.size ∉ g.ids := fun hm => Nat.lt_irrefl _ (Graph.mem_ids.1 hm)
      rw [Graph.mem_ids_declare, Graph.declare]
      dsimp only
      split
      · next hbuiltin =>
          rw [Link.mem_pairs_add, h.unionMember u m, Prod.mk.injEq]
          constructor
          · rintro (⟨rfl, hm, hk⟩ | ⟨rfl, rfl⟩)
            · exact ⟨rfl, Or.inl hm, (hold hm).trans hk⟩
            · exact ⟨rfl, Or.inr rfl, hnew.trans hbuiltin⟩
          · rintro ⟨rfl, hm | rfl, hk⟩
            · exact Or.inl ⟨rfl, hm, (hold hm).symm.trans hk⟩
            · exact Or.inr ⟨rfl, rfl⟩
      · next hbuiltin =>
          rw [h.unionMember u m]
          constructor
          · rintro ⟨rfl, hm, hk⟩
            exact ⟨rfl, Or.inl hm, (hold hm).trans hk⟩
          · rintro ⟨rfl, hm | rfl, hk⟩
            · exact ⟨rfl, hm, (hold hm).symm.trans hk⟩
            · exact absurd (hnew.symm.trans hk) hbuiltin
  nothingElse := h.nothingElse

/-- A topic declares its class, unless the class is there. -/
theorem Declares.declareTopic_eq (h : Declares edition ss g) (ht : t = topicAbout ss t.subject) :
    declareTopic g t =
      if t.subject ∈ g.classIris then g else g.declare (declaredEntry edition ss t.subject) := by
  by_cases hmem : t.subject ∈ g.classIris
  · obtain ⟨c, hc⟩ := Option.isSome_iff_exists.1 (Graph.isSome_find?_iff.2 hmem)
    rw [declareTopic, hc, if_pos hmem]
  · have hnone : g.find? t.subject = none := Graph.find?_eq_none_iff.2 hmem
    -- the classes that are there from the start are not declared again
    have hseed : t.subject ∉ seedIris edition := by
      obtain ⟨rest, hrest⟩ := h.seeded
      exact fun hs => hmem (hrest ▸ List.mem_append_left rest hs)
    rw [if_neg hmem, declaredEntry_of_not_mem hseed, ← ht, declareTopic, hnone]
    dsimp only
    split
    · rw [Graph.insert, ClassEntry.builtin, ClassEntry.ofKind]
      dsimp only
      rw [hnone]
      rfl
    · rw [Graph.insert, ClassEntry.ofKind]
      dsimp only
      rw [hnone]
      rfl

theorem Declares.foldl (ts : List Topic) :
    ∀ g, Declares edition ss g → (∀ t ∈ ts, t = topicAbout ss t.subject) →
      Declares edition ss (ts.foldl declareTopic g) ∧
        ∀ a, a ∈ (ts.foldl declareTopic g).classIris ↔
          a ∈ g.classIris ∨ a ∈ ts.map Topic.subject := by
  induction ts with
  | nil => exact fun g h _ => ⟨h, by simp⟩
  | cons t ts ih =>
      intro g h hts
      have ht := h.declareTopic_eq (hts t List.mem_cons_self)
      have hstep : Declares edition ss (declareTopic g t) ∧
          ∀ a, a ∈ (declareTopic g t).classIris ↔ a ∈ g.classIris ∨ a = t.subject := by
        rw [ht]
        split
        · next hmem => exact ⟨h, fun a => ⟨Or.inl, fun ha => ha.elim id fun ha => ha ▸ hmem⟩⟩
        · next hmem =>
            refine ⟨h.declare hmem, fun a => ?_⟩
            rw [Graph.classIris_declare, iri_declaredEntry, List.mem_append, List.mem_singleton]
      obtain ⟨hrest, hiris⟩ :=
        ih (declareTopic g t) hstep.1 fun t' ht' => hts t' (List.mem_cons_of_mem t ht')
      refine ⟨hrest, fun a => ?_⟩
      rw [List.foldl_cons, hiris, hstep.2, List.map_cons, List.mem_cons, or_assoc]

/-! ## The declared graph -/

/-- The ontology has a class with the IRI `a`. -/
def KnownClass (edition : Edition) (ss : List Statement) (a : Iri) : Prop :=
  a ∈ seedIris edition ∨ DescribesClass ss a

theorem mem_classTopics (ht : t ∈ classTopics (topicsOf ss)) : t = topicAbout ss t.subject := by
  rw [classTopics] at ht
  exact (mem_topicsOf.1 (List.mem_of_mem_filter ht)).2

theorem declares_declaredGraph (ss : List Statement) :
    Declares (editionOf (topicsOf ss)) ss (declaredGraph (topicsOf ss)) :=
  (Declares.foldl _ _ (declares_seedGraph _ _) fun _ ht => mem_classTopics ht).1

theorem mem_classIris_declaredGraph :
    a ∈ (declaredGraph (topicsOf ss)).classIris ↔ KnownClass (editionOf (topicsOf ss)) ss a := by
  rw [declaredGraph,
    (Declares.foldl _ _ (declares_seedGraph _ ss) fun _ ht => mem_classTopics ht).2,
    classIris_seedGraph]
  rfl

namespace Declares

theorem entry_eq (h : Declares edition ss g) (hc : c ∈ g.ids) :
    g.entry c = declaredEntry edition ss (g.iri c) :=
  h.entries (g.entry c) (getD_mem (Graph.mem_ids.1 hc))

theorem union (h : Declares edition ss g) :
    unionId ∈ g.ids ∧ g.iri unionId = edition.term "DataType" := by
  obtain ⟨rest, hrest⟩ := h.seeded
  have hlength : unionId < (seedIris edition).length := by cases edition <;> decide
  have hget : g.classIris[unionId]? = some (edition.term "DataType") := by
    rw [hrest, List.getElem?_append_left hlength]
    cases edition <;> rfl
  rw [Graph.classIris, List.getElem?_map, Option.map_eq_some_iff] at hget
  obtain ⟨e, he, heq⟩ := hget
  refine ⟨Graph.mem_ids.2 (List.getElem?_eq_some_iff.1 he).1, ?_⟩
  rw [Graph.iri, Graph.entry, he, Option.getD_some, heq]

/-- The only union is the one that is there from the start. -/
theorem kind_eq_union_iff (h : Declares edition ss g) (hc : c ∈ g.ids) :
    g.kind c = .dataTypeUnion ↔ c = unionId := by
  obtain ⟨hunion, hiri⟩ := h.union
  constructor
  · intro hkind
    rw [Graph.kind, h.entry_eq hc] at hkind
    exact Graph.eq_of_iri_eq h.nodup hc hunion ((eq_of_kind_declaredEntry hkind).trans hiri.symm)
  · rintro rfl
    rw [Graph.kind, h.entry_eq hunion, hiri, declaredEntry_of_mem (by simp [seedIris])]
    cases edition <;> decide +kernel

theorem superclass_eq (h : Declares edition ss g) : g.superclass = .empty :=
  congrArg Graph.superclass h.nothingElse

theorem successor_eq (h : Declares edition ss g) : g.successor = .empty :=
  congrArg Graph.successor h.nothingElse

theorem membership_eq (h : Declares edition ss g) : g.membership = .empty :=
  congrArg Graph.membership h.nothingElse

theorem properties_eq (h : Declares edition ss g) : g.properties = [] :=
  congrArg Graph.properties h.nothingElse

theorem bindings_eq (h : Declares edition ss g) : g.bindings = [] :=
  congrArg Graph.bindings h.nothingElse

theorem values_eq (h : Declares edition ss g) : g.values = [] :=
  congrArg Graph.values h.nothingElse

theorem inRange (h : Declares edition ss g) : g.InRange where
  superclass l hl := by
      rw [h.superclass_eq] at hl
      exact absurd hl List.not_mem_nil
  successor l hl := by
      rw [h.successor_eq] at hl
      exact absurd hl List.not_mem_nil
  unionMember := by
      rintro ⟨u, m⟩ hl
      obtain ⟨rfl, hm, _⟩ := (h.unionMember u m).1 hl
      exact ⟨h.union.1, hm⟩
  range p hp := by
      rw [h.properties_eq] at hp
      exact absurd hp List.not_mem_nil
  binding b hb := by
      rw [h.bindings_eq] at hb
      exact absurd hb List.not_mem_nil
  membership l hl := by
      rw [h.membership_eq] at hl
      exact absurd hl List.not_mem_nil

end Declares

end Ontotype

import Ontotype.Proofs.Assembly.Stages

set_option autoImplicit false

/-! # The graph says what the statements say

The graph that is assembled from a list of statements is described by the statements alone, without
regard to the stages, to the order of the topics, or to the numbers that things get: a class, a
property or an enumeration value is known by its IRI, and the graph relates two of them if and only
if some statement does (`Portrays`). -/

namespace Ontotype

open Vocabulary

variable {edition : Edition} {ss : List Statement} {g D : Graph} {a b : Iri} {e : Edit}
  {c d : ClassId} {p : PropertyId} {v : ValueId} {s : Statement} {t : Topic}

/-! ## What statements say of a subject -/

/-- The comments that a subject is given, in order. -/
def texts (ss : List Statement) (a : Iri) : List String :=
  (topicAbout ss a).statements.filterMap Statement.text?

/-- The comments of a subject count for a class if the subject describes one. -/
def classTexts (ss : List Statement) (a : Iri) : List String :=
  if a ∈ (classTopics (topicsOf ss)).map Topic.subject then texts ss a else []

/-- What is to be used instead of a subject, in order. -/
def successorTerms (ss : List Statement) (a : Iri) : List Term :=
  (topicAbout ss a).statements.filterMap Statement.successor?

/-- The subject is declared to be a value of an enumeration. -/
def IsValue (ss : List Statement) (a : Iri) : Prop :=
  ∃ b, Says ss a .type b ∧ b.isMetaType = false

/-! ## Portraits -/

/-- The graph has the classes, properties and enumeration values of the statements, each once, and
    relates them as the statements do. -/
structure Portrays (edition : Edition) (ss : List Statement) (g : Graph) : Prop where
  inRange : g.InRange
  boundOnce : g.BoundOnce
  nodup_classIris : g.classIris.Nodup
  nodup_propertyIris : g.propertyIris.Nodup
  nodup_valueIris : g.valueIris.Nodup
  mem_classIris : ∀ a, a ∈ g.classIris ↔ KnownClass edition ss a
  mem_propertyIris : ∀ a, a ∈ g.propertyIris ↔ Says ss a .type rdfProperty
  mem_valueIris : ∀ a, a ∈ g.valueIris ↔ IsValue ss a
  kind : ∀ c ∈ g.ids, g.kind c = (declaredEntry edition ss (g.iri c)).kind
  aliases : ∀ c ∈ g.ids, (g.entry c).aliases = (declaredEntry edition ss (g.iri c)).aliases
  marked : ∀ c ∈ g.ids, (g.entry c).marked = true ↔
    (declaredEntry edition ss (g.iri c)).kind ≠ .ordinary ∨ Says ss (g.iri c) .type rdfsClass
  comment : ∀ c ∈ g.ids, (g.entry c).comment = (classTexts ss (g.iri c)).getLast?
  below : ∀ c ∈ g.ids, ∀ d ∈ g.ids, g.Below c d ↔ SaysBelow ss (g.iri c) (g.iri d)
  successor : ∀ c ∈ g.ids, ∀ d ∈ g.ids, d ∈ g.successors c ↔
    DescribesClass ss (g.iri c) ∧ Says ss (g.iri c) .supersededBy (g.iri d)
  unionMember : ∀ c ∈ g.ids, ∀ d ∈ g.ids, d ∈ g.unionMembers c ↔
    g.kind c = .dataTypeUnion ∧ g.kind d = .builtin
  property_comment : ∀ p < g.properties.length,
    (g.property p).comment = (texts ss (g.property p).iri).getLast?
  range : ∀ p < g.properties.length, ∀ c ∈ g.ids, c ∈ (g.property p).ranges ↔
    Says ss (g.property p).iri .rangeIncludes (g.iri c)
  property_successors : ∀ p < g.properties.length,
    (g.property p).successors = successorTerms ss (g.property p).iri
  bound : ∀ c ∈ g.ids, ∀ p < g.properties.length, g.Bound c p ↔
    Says ss (g.property p).iri .domainIncludes (g.iri c)
  key : ∀ b ∈ g.bindings, b.key = (g.property b.property).iri
  value_comment : ∀ v < g.values.length, (g.value v).comment = (texts ss (g.value v).iri).getLast?
  member : ∀ c ∈ g.ids, ∀ v < g.values.length, v ∈ g.valuesOf c ↔
    Says ss (g.value v).iri .type (g.iri c) ∧ (g.iri c).isMetaType = false

/-- The graph that the edits of all statements lead to. -/
def assembledGraph (ss : List Statement) : Graph :=
  (declaredGraph (topicsOf ss)).edits (allEdits (declaredGraph (topicsOf ss)) (topicsOf ss))

/-! ## One list among many -/

theorem flatMap_eq_of_unique {α β : Type} {xs : List α} {f : α → List β} {x : α} (hx : x ∈ xs)
    (hnodup : xs.Nodup) (h : ∀ y ∈ xs, y ≠ x → f y = []) : xs.flatMap f = f x := by
  obtain ⟨before, after, rfl⟩ := List.append_of_mem hx
  obtain ⟨_, hcons, hdisjoint⟩ := List.nodup_append.1 hnodup
  have hbefore : before.flatMap f = [] := by
    refine List.flatMap_eq_nil_iff.2 fun y hy => ?_
    exact h y (List.mem_append_left _ hy) fun heq => hdisjoint y hy x List.mem_cons_self heq
  have hafter : after.flatMap f = [] := by
    refine List.flatMap_eq_nil_iff.2 fun y hy => ?_
    refine h y (List.mem_append_right _ (List.mem_cons_of_mem x hy)) fun heq => ?_
    exact (List.nodup_cons.1 hcons).1 (heq ▸ hy)
  rw [List.flatMap_append, List.flatMap_cons, hbefore, hafter, List.nil_append, List.append_nil]

/-- Where each statement asks for at most one edit of a kind, the edits are picked like the
    statements. -/
theorem filterMap_flatMap_edits {α : Type} {xs : List Statement} {read : Statement → Reading}
    {f : Edit → Option α} {want : Statement → Option α}
    (h : ∀ s ∈ xs, (read s).edits.filterMap f = (want s).toList) :
    (xs.flatMap fun s => (read s).edits).filterMap f = xs.filterMap want := by
  rw [List.filterMap_flatMap, List.flatMap_congr h, List.filterMap_eq_flatMap_toList]

theorem filterMap_flatMap_edits_ite {α : Type} {xs : List Statement} {read : Statement → Reading}
    {f : Edit → Option α} {want : Statement → Option α} {q : Prop} [Decidable q]
    (h : ∀ s ∈ xs, (read s).edits.filterMap f = if q then (want s).toList else []) :
    (xs.flatMap fun s => (read s).edits).filterMap f = if q then xs.filterMap want else [] := by
  split
  · next hq => exact filterMap_flatMap_edits fun s hs => (h s hs).trans (if_pos hq)
  · next hq =>
      rw [List.filterMap_flatMap]
      exact List.flatMap_eq_nil_iff.2 fun s hs => (h s hs).trans (if_neg hq)

theorem nodup_zipIdx {α : Type} (xs : List α) : xs.zipIdx.Nodup := by
  refine List.Nodup.of_map Prod.snd ?_
  rw [List.zipIdx_map_snd]
  exact List.nodup_range'

theorem map_fst_zipIdx {α β : Type} (f : α → β) (xs : List α) :
    xs.zipIdx.map (fun x => f x.1) = xs.map f := by
  conv_rhs => rw [← List.zipIdx_map_fst 0 xs]
  rw [List.map_map]
  rfl

theorem flatMap_fst_zipIdx {α β : Type} (f : α → List β) (xs : List α) :
    xs.zipIdx.flatMap (fun x => f x.1) = xs.flatMap f := by
  rw [List.flatMap_def, List.flatMap_def, map_fst_zipIdx]

/-- Where only the thing with the number `i` contributes, its contribution is all there is. -/
theorem flatMap_zipIdx_eq {α β : Type} {xs : List α} {f : α × Nat → List β} {x : α} {i : Nat}
    (hx : xs[i]? = some x) (h : ∀ y j, j ≠ i → f (y, j) = []) : xs.zipIdx.flatMap f = f (x, i) := by
  refine flatMap_eq_of_unique (List.mk_mem_zipIdx_iff_getElem?.2 hx) (nodup_zipIdx xs) ?_
  rintro ⟨y, j⟩ hy hne
  refine h y j fun hji => hne ?_
  subst hji
  rw [List.mk_mem_zipIdx_iff_getElem?, hx] at hy
  rw [Option.some.inj hy]

/-! ## The edits of all statements -/

theorem exists_classTopic_iff :
    (∃ t ∈ classTopics (topicsOf ss), s ∈ t.statements) ↔ s ∈ ss ∧ DescribesClass ss s.subject := by
  constructor
  · rintro ⟨t, ht, hs⟩
    have hmem : t.subject ∈ (classTopics (topicsOf ss)).map Topic.subject := List.mem_map_of_mem ht
    rw [mem_classTopics ht, mem_statements_topicAbout] at hs
    refine ⟨hs.1, ?_⟩
    rw [hs.2]
    exact hmem
  · rintro ⟨hs, hclass⟩
    obtain ⟨t, ht, hsub⟩ := List.mem_map.1 hclass
    refine ⟨t, ht, ?_⟩
    rw [mem_classTopics ht, mem_statements_topicAbout]
    exact ⟨hs, hsub.symm⟩

theorem getElem?_filter_topicsOf {q : Topic → Bool} {i : Nat}
    (h : (((topicsOf ss).filter q).map Topic.subject)[i]? = some a) :
    ((topicsOf ss).filter q)[i]? = some (topicAbout ss a) := by
  rw [List.getElem?_map, Option.map_eq_some_iff] at h
  obtain ⟨t, ht, rfl⟩ := h
  have hmem := List.mem_of_mem_filter (List.mem_of_getElem? ht)
  rw [ht, ← (mem_topicsOf.1 hmem).2]

theorem named?_eq_some_iff_iri (hD : D.classIris.Nodup) (hc : c ∈ D.ids) :
    D.named? s = some c ↔ s.object.iri? = some (D.iri c) := by
  rw [named?_eq_some_iff]
  constructor
  · rintro ⟨a, ha, hfind⟩
    rw [ha, Graph.iri_of_find? hfind]
  · exact fun h => ⟨D.iri c, h, Graph.find?_iri hD hc⟩

namespace Declares

variable (hD : Declares edition ss D)

include hD

theorem accepts (topics : List Topic) : D.Accepts (allEdits D topics) :=
  accepts_allEdits hD.properties_eq hD.values_eq topics

theorem mem_edits_classes (he : e.part? = some .classes) : e ∈ allEdits D (topicsOf ss) ↔
    ∃ s ∈ ss, DescribesClass ss s.subject ∧ e ∈ (readClassStatement D s).edits := by
  rw [mem_allEdits hD.properties_eq hD.values_eq he, stageEdits_classes, List.mem_flatMap]
  constructor
  · rintro ⟨t, ht, he⟩
    obtain ⟨s, hs, he⟩ := List.mem_flatMap.1 he
    obtain ⟨hss, hclass⟩ := exists_classTopic_iff.1 ⟨t, ht, hs⟩
    exact ⟨s, hss, hclass, he⟩
  · rintro ⟨s, hs, hclass, he⟩
    obtain ⟨t, ht, hst⟩ := exists_classTopic_iff.2 ⟨hs, hclass⟩
    exact ⟨t, ht, List.mem_flatMap.2 ⟨s, hst, he⟩⟩

theorem propertyIris_eq : (D.edits (allEdits D (topicsOf ss))).propertyIris =
    ((topicsOf ss).filter Topic.isProperty).map Topic.subject := by
  rw [(hD.accepts _).propertyIris_eq,
    filterMap_allEdits hD.properties_eq hD.values_eq part_of_newProperty?,
    stageEdits_properties hD.properties_eq, List.filterMap_flatMap, Graph.propertyIris,
    hD.properties_eq]
  simp only [newProperty?_propertyEdits, List.map_nil, List.nil_append]
  rw [← List.map_eq_flatMap, map_fst_zipIdx]

theorem valueIris_eq : (D.edits (allEdits D (topicsOf ss))).valueIris =
    ((topicsOf ss).filter Topic.hasEnumType).map Topic.subject := by
  rw [(hD.accepts _).valueIris_eq,
    filterMap_allEdits hD.properties_eq hD.values_eq part_of_newValue?,
    stageEdits_values hD.values_eq, List.filterMap_flatMap, Graph.valueIris, hD.values_eq]
  simp only [newValue?_valueEdits, List.map_nil, List.nil_append]
  rw [← List.map_eq_flatMap, map_fst_zipIdx]

/-- The property with the number `p` is described by the topic with that number. -/
theorem topic_of_property (hp : p < (D.edits (allEdits D (topicsOf ss))).properties.length) :
    ((topicsOf ss).filter Topic.isProperty)[p]? =
      some (topicAbout ss ((D.edits (allEdits D (topicsOf ss))).property p).iri) := by
  refine getElem?_filter_topicsOf ?_
  rw [← hD.propertyIris_eq, Graph.propertyIris, List.getElem?_map, Graph.property,
    List.getElem?_eq_getElem hp]
  rfl

/-- The enumeration value with the number `v` is described by the topic with that number. -/
theorem topic_of_value (hv : v < (D.edits (allEdits D (topicsOf ss))).values.length) :
    ((topicsOf ss).filter Topic.hasEnumType)[v]? =
      some (topicAbout ss ((D.edits (allEdits D (topicsOf ss))).value v).iri) := by
  refine getElem?_filter_topicsOf ?_
  rw [← hD.valueIris_eq, Graph.valueIris, List.getElem?_map, Graph.value,
    List.getElem?_eq_getElem hv]
  rfl

theorem mem_edits_property (hp : p < (D.edits (allEdits D (topicsOf ss))).properties.length)
    (he : e.part? = some .properties) (hnew : e.newProperty? = none)
    (habout : ∀ s q, e ∈ (readPropertyStatement D q s).edits → q = p) :
    e ∈ allEdits D (topicsOf ss) ↔ ∃ s ∈ ss,
      s.subject = ((D.edits (allEdits D (topicsOf ss))).property p).iri ∧
        e ∈ (readPropertyStatement D p s).edits := by
  have htopic := hD.topic_of_property hp
  rw [mem_allEdits hD.properties_eq hD.values_eq he, stageEdits_properties hD.properties_eq,
    List.mem_flatMap]
  constructor
  · rintro ⟨⟨t, q⟩, ht, he⟩
    rw [propertyEdits, List.mem_cons] at he
    have he' := he.resolve_left fun heq => by
      rw [heq] at hnew
      exact absurd hnew (by simp [Edit.newProperty?])
    obtain ⟨s, hs, he'⟩ := List.mem_flatMap.1 he'
    obtain rfl := habout s q he'
    rw [List.mk_mem_zipIdx_iff_getElem?, htopic] at ht
    rw [← Option.some.inj ht, mem_statements_topicAbout] at hs
    exact ⟨s, hs.1, hs.2, he'⟩
  · rintro ⟨s, hs, hsub, he⟩
    refine ⟨(topicAbout ss _, p), List.mk_mem_zipIdx_iff_getElem?.2 htopic, ?_⟩
    refine List.mem_cons_of_mem _ (List.mem_flatMap.2 ⟨s, ?_, he⟩)
    exact mem_statements_topicAbout.2 ⟨hs, hsub⟩

/-! ## Classes -/

theorem mark_mem_iff (hc : c ∈ D.ids) : .mark c ∈ allEdits D (topicsOf ss) ↔
    Says ss (D.iri c) .type rdfsClass := by
  rw [hD.mem_edits_classes rfl]
  simp only [mem_edits_readClassStatement, Graph.find?_eq_some_iff hD.nodup]
  constructor
  · rintro ⟨s, hs, hclass, d, ⟨hd, hsub⟩, h⟩
    simp only [reduceCtorEq, and_false, exists_const, false_or, or_false, Edit.mark.injEq] at h
    obtain ⟨⟨hkind, htype⟩, heq⟩ := h
    subst heq
    exact ⟨s, hs, hsub.symm, hkind, beq_iff_eq.1 htype⟩
  · intro h
    have hclass : DescribesClass ss (D.iri c) := by
      obtain ⟨s, hs, hsub, hrest⟩ := h
      exact describesClass_iff.2 ⟨⟨s, hs, hsub⟩, Or.inl ⟨s, hs, hsub, hrest⟩⟩
    obtain ⟨s, hs, hsub, hkind, hobj⟩ := h
    refine ⟨s, hs, hsub ▸ hclass, c, ⟨hc, hsub.symm⟩, ?_⟩
    simp [hkind, Term.isClassType, hobj]

theorem addParent_mem_iff (hc : c ∈ D.ids) (hd : d ∈ D.ids) :
    .addParent c d ∈ allEdits D (topicsOf ss) ↔ SaysBelow ss (D.iri c) (D.iri d) := by
  rw [hD.mem_edits_classes rfl]
  simp only [mem_edits_readClassStatement, Graph.find?_eq_some_iff hD.nodup]
  constructor
  · rintro ⟨s, hs, hclass, c', ⟨_, hsub⟩, h⟩
    simp only [reduceCtorEq, and_false, exists_const, false_or, or_false,
      Edit.addParent.injEq] at h
    obtain ⟨d', ⟨hkind, htype⟩, hnamed, rfl, rfl⟩ := h
    exact ⟨s, hs, hsub.symm, hkind, htype, (named?_eq_some_iff_iri hD.nodup hd).1 hnamed⟩
  · intro h
    have hclass := h.describesClass
    obtain ⟨s, hs, hsub, hkind, htype, hobj⟩ := h
    refine ⟨s, hs, hsub ▸ hclass, c, ⟨hc, hsub.symm⟩, ?_⟩
    simp [hkind, htype, named?_eq_some_iff_iri hD.nodup hd, hobj]

theorem addSuccessor_mem_iff (hc : c ∈ D.ids) (hd : d ∈ D.ids) :
    .addSuccessor c d ∈ allEdits D (topicsOf ss) ↔
      DescribesClass ss (D.iri c) ∧ Says ss (D.iri c) .supersededBy (D.iri d) := by
  rw [hD.mem_edits_classes rfl]
  simp only [mem_edits_readClassStatement, Graph.find?_eq_some_iff hD.nodup]
  constructor
  · rintro ⟨s, hs, hclass, c', ⟨_, hsub⟩, h⟩
    simp only [reduceCtorEq, and_false, exists_const, false_or, or_false,
      Edit.addSuccessor.injEq] at h
    obtain ⟨d', hkind, hnamed, rfl, rfl⟩ := h
    exact ⟨hsub ▸ hclass, s, hs, hsub.symm, hkind, (named?_eq_some_iff_iri hD.nodup hd).1 hnamed⟩
  · rintro ⟨hclass, s, hs, hsub, hkind, hobj⟩
    refine ⟨s, hs, hsub ▸ hclass, c, ⟨hc, hsub.symm⟩, ?_⟩
    simp [hkind, named?_eq_some_iff_iri hD.nodup hd, hobj]

/-! ## Properties -/

theorem addRange_mem_iff (hp : p < (D.edits (allEdits D (topicsOf ss))).properties.length)
    (hc : c ∈ D.ids) : .addRange p c ∈ allEdits D (topicsOf ss) ↔
      Says ss ((D.edits (allEdits D (topicsOf ss))).property p).iri .rangeIncludes (D.iri c) := by
  rw [hD.mem_edits_property hp rfl rfl fun s q h => by
    simp only [mem_edits_readPropertyStatement, reduceCtorEq, and_false, exists_const, false_or,
      or_false, Edit.addRange.injEq] at h
    obtain ⟨_, _, _, hq, _⟩ := h
    exact hq.symm]
  refine exists_congr fun s => and_congr_right fun _ => and_congr_right fun _ => ?_
  simp [mem_edits_readPropertyStatement, named?_eq_some_iff_iri hD.nodup hc]

theorem bind_mem_iff {b : Binding}
    (hp : b.property < (D.edits (allEdits D (topicsOf ss))).properties.length)
    (hc : b.owner ∈ D.ids) : .bind b ∈ allEdits D (topicsOf ss) ↔
      b.key = ((D.edits (allEdits D (topicsOf ss))).property b.property).iri ∧
        Says ss b.key .domainIncludes (D.iri b.owner) := by
  rw [hD.mem_edits_property hp rfl rfl fun s q h => by
    simp only [mem_edits_readPropertyStatement, reduceCtorEq, and_false, exists_const, false_or,
      or_false, Edit.bind.injEq] at h
    obtain ⟨_, _, _, hb⟩ := h
    rw [hb]]
  simp only [mem_edits_readPropertyStatement, reduceCtorEq, and_false, exists_const, false_or,
    or_false, Edit.bind.injEq]
  constructor
  · rintro ⟨s, hs, hsub, c, hkind, hnamed, hb⟩
    have howner : b.owner = c := congrArg Binding.owner hb
    have hkey : b.key = s.subject := congrArg Binding.key hb
    rw [← howner, named?_eq_some_iff_iri hD.nodup hc] at hnamed
    exact ⟨hkey.trans hsub, s, hs, hkey.symm, hkind, hnamed⟩
  · rintro ⟨hkey, s, hs, hsub, hkind, hobj⟩
    refine ⟨s, hs, hsub.trans hkey, b.owner, hkind,
      (named?_eq_some_iff_iri hD.nodup hc).2 hobj, ?_⟩
    rw [hsub]

/-! ## Enumeration values -/

theorem addMember_mem_iff (hv : v < (D.edits (allEdits D (topicsOf ss))).values.length)
    (hc : c ∈ D.ids) : .addMember c v ∈ allEdits D (topicsOf ss) ↔
      Says ss ((D.edits (allEdits D (topicsOf ss))).value v).iri .type (D.iri c) ∧
        (D.iri c).isMetaType = false := by
  have htopic := hD.topic_of_value hv
  rw [mem_allEdits hD.properties_eq hD.values_eq rfl, stageEdits_values hD.values_eq,
    List.mem_flatMap]
  simp only [valueEdits, List.mem_cons, List.mem_append, List.mem_flatMap, reduceCtorEq, false_or,
    mem_edits_readValueStatement, mem_edits_readValueType, and_false, exists_false, or_false,
    List.mem_filter, Bool.not_eq_true', Edit.addMember.injEq]
  constructor
  · rintro ⟨⟨t, w⟩, ht, type, ⟨htype, hmeta⟩, c', hfind, rfl, rfl⟩
    rw [List.mk_mem_zipIdx_iff_getElem?, htopic] at ht
    rw [← Option.some.inj ht] at htype
    have hiri : D.iri c = type := Graph.iri_of_find? hfind
    rw [hiri]
    exact ⟨mem_declaredTypes.1 htype, hmeta⟩
  · rintro ⟨hfact, hmeta⟩
    refine ⟨(topicAbout ss _, v), List.mk_mem_zipIdx_iff_getElem?.2 htopic, D.iri c,
      ⟨mem_declaredTypes.2 hfact, hmeta⟩, c, Graph.find?_iri hD.nodup hc, rfl, rfl⟩

/-! ## Comments -/

theorem classText?_classEdits (hc : c ∈ D.ids) {t : Topic} (ht : t ∈ classTopics (topicsOf ss)) :
    (classEdits D t).filterMap (Edit.classText? c) =
      if t.subject = D.iri c then texts ss t.subject else [] := by
  have htopic := mem_classTopics ht
  rw [classEdits, texts, ← htopic]
  refine filterMap_flatMap_edits_ite fun s hs => ?_
  rw [htopic, mem_statements_topicAbout] at hs
  rw [← hs.2]
  cases hfind : D.find? s.subject with
  | none =>
      have hne : s.subject ≠ D.iri c := by
        intro heq
        rw [heq, Graph.find?_iri hD.nodup hc] at hfind
        exact absurd hfind (by simp)
      rw [readClassStatement, hfind, if_neg hne]
      rfl
  | some d =>
      obtain ⟨hd, hiri⟩ := (Graph.find?_eq_some_iff hD.nodup).1 hfind
      have hiff : s.subject = D.iri c ↔ d = c := by
        rw [← hiri]
        exact ⟨fun heq => Graph.eq_of_iri_eq hD.nodup hd hc heq, fun heq => heq ▸ rfl⟩
      rw [classText?_readClassStatement hfind]
      simp only [hiff]

/-- The comments that the edits give to a class. -/
theorem filterMap_classText? (hc : c ∈ D.ids) :
    (allEdits D (topicsOf ss)).filterMap (Edit.classText? c) = classTexts ss (D.iri c) := by
  have hpart : ∀ e : Edit, e.part? ≠ some .classes → e.classText? c = none := by
    intro e he
    cases e with
    | commentClass d text => exact absurd rfl he
    | _ => rfl
  rw [filterMap_allEdits hD.properties_eq hD.values_eq hpart, stageEdits_classes,
    List.filterMap_flatMap, classTexts,
    List.flatMap_congr fun t ht => hD.classText?_classEdits hc ht]
  split
  · next hclass =>
      obtain ⟨t, ht, hsub⟩ := List.mem_map.1 hclass
      have hnodup : (classTopics (topicsOf ss)).Nodup := (nodup_topicsOf ss).filter _
      rw [flatMap_eq_of_unique ht hnodup fun t' ht' hne => if_neg fun hsub' => hne ?_,
        if_pos hsub, hsub]
      rw [mem_classTopics ht, mem_classTopics ht', hsub, hsub']
  · next hclass =>
      refine List.flatMap_eq_nil_iff.2 fun t ht => if_neg fun hsub => hclass ?_
      exact List.mem_map.2 ⟨t, ht, hsub⟩

/-- The comments that the edits give to a property. -/
theorem filterMap_propertyText? (hp : p < (D.edits (allEdits D (topicsOf ss))).properties.length) :
    (allEdits D (topicsOf ss)).filterMap (Edit.propertyText? p) =
      texts ss ((D.edits (allEdits D (topicsOf ss))).property p).iri := by
  have hpart : ∀ e : Edit, e.part? ≠ some .properties → e.propertyText? p = none := by
    intro e he
    cases e with
    | commentProperty q text => exact absurd rfl he
    | _ => rfl
  have htopic : ∀ (t : Topic) q, (propertyEdits D (t, q)).filterMap (Edit.propertyText? p) =
      if q = p then t.statements.filterMap Statement.text? else [] := by
    intro t q
    rw [filterMap_propertyEdits fun _ => rfl]
    exact filterMap_flatMap_edits_ite fun s _ => propertyText?_readPropertyStatement D q s
  rw [filterMap_allEdits hD.properties_eq hD.values_eq hpart,
    stageEdits_properties hD.properties_eq, List.filterMap_flatMap,
    flatMap_zipIdx_eq (hD.topic_of_property hp) fun t q hne => by rw [htopic, if_neg hne],
    htopic, if_pos rfl, texts]

/-- What the edits name to be used instead of a property. -/
theorem filterMap_propertySuccessor?
    (hp : p < (D.edits (allEdits D (topicsOf ss))).properties.length) :
    (allEdits D (topicsOf ss)).filterMap (Edit.propertySuccessor? p) =
      successorTerms ss ((D.edits (allEdits D (topicsOf ss))).property p).iri := by
  have hpart : ∀ e : Edit, e.part? ≠ some .properties → e.propertySuccessor? p = none := by
    intro e he
    cases e with
    | addPropertySuccessor q t => exact absurd rfl he
    | _ => rfl
  have htopic : ∀ (t : Topic) q, (propertyEdits D (t, q)).filterMap (Edit.propertySuccessor? p) =
      if q = p then t.statements.filterMap Statement.successor? else [] := by
    intro t q
    rw [filterMap_propertyEdits fun _ => rfl]
    exact filterMap_flatMap_edits_ite fun s _ => propertySuccessor?_readPropertyStatement D q s
  rw [filterMap_allEdits hD.properties_eq hD.values_eq hpart,
    stageEdits_properties hD.properties_eq, List.filterMap_flatMap,
    flatMap_zipIdx_eq (hD.topic_of_property hp) fun t q hne => by rw [htopic, if_neg hne],
    htopic, if_pos rfl, successorTerms]

/-- The comments that the edits give to an enumeration value. -/
theorem filterMap_valueText? (hv : v < (D.edits (allEdits D (topicsOf ss))).values.length) :
    (allEdits D (topicsOf ss)).filterMap (Edit.valueText? v) =
      texts ss ((D.edits (allEdits D (topicsOf ss))).value v).iri := by
  have hpart : ∀ e : Edit, e.part? ≠ some .values → e.valueText? v = none := by
    intro e he
    cases e with
    | commentValue w text => exact absurd rfl he
    | _ => rfl
  have htopic : ∀ (t : Topic) w, (valueEdits D (t, w)).filterMap (Edit.valueText? v) =
      if w = v then t.statements.filterMap Statement.text? else [] := by
    intro t w
    rw [filterMap_valueEdits (fun _ => rfl) fun _ _ => rfl]
    exact filterMap_flatMap_edits_ite fun s _ => valueText?_readValueStatement w _ s
  rw [filterMap_allEdits hD.properties_eq hD.values_eq hpart, stageEdits_values hD.values_eq,
    List.filterMap_flatMap,
    flatMap_zipIdx_eq (hD.topic_of_value hv) fun t w hne => by rw [htopic, if_neg hne],
    htopic, if_pos rfl, texts]

/-! ## The portrait -/

theorem mem_propertyIris : a ∈ (D.edits (allEdits D (topicsOf ss))).propertyIris ↔
    Says ss a .type rdfProperty := by
  rw [hD.propertyIris_eq, map_subject_filter_topicsOf, List.mem_filter, isProperty_topicAbout]
  refine and_iff_right_of_imp ?_
  rintro ⟨s, hs, hsub, _⟩
  exact mem_subjects.2 ⟨s, hs, hsub⟩

theorem mem_valueIris : a ∈ (D.edits (allEdits D (topicsOf ss))).valueIris ↔ IsValue ss a := by
  rw [hD.valueIris_eq, map_subject_filter_topicsOf, List.mem_filter, hasEnumType_topicAbout]
  refine and_iff_right_of_imp ?_
  rintro ⟨b, ⟨s, hs, hsub, _⟩, _⟩
  exact mem_subjects.2 ⟨s, hs, hsub⟩

theorem bound_iff (hc : c ∈ D.ids)
    (hp : p < (D.edits (allEdits D (topicsOf ss))).properties.length) :
    (D.edits (allEdits D (topicsOf ss))).Bound c p ↔
      Says ss ((D.edits (allEdits D (topicsOf ss))).property p).iri .domainIncludes (D.iri c) := by
  rw [(hD.accepts _).bound_iff]
  constructor
  · rintro (⟨b, hb, _⟩ | ⟨key, hkey⟩)
    · rw [hD.bindings_eq] at hb
      exact absurd hb List.not_mem_nil
    · obtain ⟨heq, hfact⟩ := (hD.bind_mem_iff hp hc).1 hkey
      exact heq ▸ hfact
  · intro hfact
    exact Or.inr ⟨_, (hD.bind_mem_iff hp hc).2 ⟨rfl, hfact⟩⟩

/-- Properties are bound under their own names. -/
theorem key_of_mem_bindings {b : Binding}
    (hb : b ∈ (D.edits (allEdits D (topicsOf ss))).bindings) :
    b.key = ((D.edits (allEdits D (topicsOf ss))).property b.property).iri := by
  obtain ⟨howner, hlt⟩ := (hD.inRange.edits (hD.accepts _)).binding b hb
  rw [Graph.ids_edits] at howner
  rcases Graph.mem_bindings_edits _ _ hb with hb | hb
  · rw [hD.bindings_eq] at hb
    exact absurd hb List.not_mem_nil
  · exact ((hD.bind_mem_iff hlt howner).1 hb).1

/-- The graph that the edits of all statements lead to portrays the statements. -/
theorem portrays (hmem : ∀ a, a ∈ D.classIris ↔ KnownClass edition ss a) :
    Portrays edition ss (D.edits (allEdits D (topicsOf ss))) := by
  have haccepts := hD.accepts (topicsOf ss)
  have hinRange := hD.inRange.edits haccepts
  have hids : ∀ {c}, c ∈ (D.edits (allEdits D (topicsOf ss))).ids → c ∈ D.ids := by
    intro c hc
    rwa [Graph.ids_edits] at hc
  have hiri := Graph.iri_edits D (allEdits D (topicsOf ss))
  have hkind : ∀ c ∈ D.ids, D.kind c = (declaredEntry edition ss (D.iri c)).kind :=
    fun c hc => congrArg ClassEntry.kind (hD.entry_eq hc)
  have hnodup : ∀ {q : Topic → Bool}, (((topicsOf ss).filter q).map Topic.subject).Nodup := by
    intro q
    rw [map_subject_filter_topicsOf]
    exact (nodup_subjects ss).filter _
  have hproperty : ∀ p, D.property p = default := by
    intro p
    rw [Graph.property, hD.properties_eq]
    rfl
  have hvalue : ∀ v, D.value v = default := by
    intro v
    rw [Graph.value, hD.values_eq]
    rfl
  constructor
  case inRange => exact hinRange
  case boundOnce =>
    refine Graph.BoundOnce.edits ?_ _
    rw [Graph.BoundOnce, hD.bindings_eq]
    exact List.Pairwise.nil
  case nodup_classIris => rw [Graph.classIris_edits]; exact hD.nodup
  case nodup_propertyIris => rw [hD.propertyIris_eq]; exact hnodup
  case nodup_valueIris => rw [hD.valueIris_eq]; exact hnodup
  case mem_classIris => intro a; rw [Graph.classIris_edits]; exact hmem a
  case mem_propertyIris => exact fun a => hD.mem_propertyIris
  case mem_valueIris => exact fun a => hD.mem_valueIris
  case kind =>
    intro c hc
    rw [haccepts.kind_eq, hiri, hkind c (hids hc)]
  case aliases =>
    intro c hc
    rw [haccepts.aliases_eq, hiri, hD.entry_eq (hids hc)]
  case marked =>
    intro c hc
    rw [haccepts.marked_iff, hiri, hD.mark_mem_iff (hids hc), hD.entry_eq (hids hc),
      marked_declaredEntry, decide_eq_true_iff]
  case comment =>
    intro c hc
    rw [haccepts.comment_eq, hiri, hD.filterMap_classText? (hids hc), hD.entry_eq (hids hc),
      comment_declaredEntry, Option.or_none]
  case below =>
    intro c hc d hd
    rw [Graph.Below, Graph.parents, Link.mem_targets, haccepts.mem_superclass, hD.superclass_eq,
      hiri, hiri, hD.addParent_mem_iff (hids hc) (hids hd)]
    exact or_iff_right List.not_mem_nil
  case successor =>
    intro c hc d hd
    rw [Graph.successors, Link.mem_targets, haccepts.mem_successor, hD.successor_eq, hiri, hiri,
      hD.addSuccessor_mem_iff (hids hc) (hids hd)]
    exact or_iff_right List.not_mem_nil
  case unionMember =>
    intro c hc d hd
    rw [Graph.unionMembers, Graph.unionMember_edits, Link.mem_targets, hD.unionMember,
      haccepts.kind_eq, haccepts.kind_eq, hD.kind_eq_union_iff (hids hc)]
    simp only [hids hd, true_and]
  case property_comment =>
    intro p hlt
    rw [haccepts.property_comment, hD.filterMap_propertyText? hlt, hproperty]
    exact Option.or_none
  case range =>
    intro p hlt c hc
    rw [haccepts.mem_ranges, hiri, hD.addRange_mem_iff hlt (hids hc), hproperty]
    exact or_iff_right List.not_mem_nil
  case property_successors =>
    intro p hlt
    rw [haccepts.property_successors, hD.filterMap_propertySuccessor? hlt, hproperty]
    rfl
  case bound =>
    intro c hc p hlt
    rw [hiri, hD.bound_iff (hids hc) hlt]
  case key => exact fun b hb => hD.key_of_mem_bindings hb
  case value_comment =>
    intro v hlt
    rw [haccepts.value_comment, hD.filterMap_valueText? hlt, hvalue]
    exact Option.or_none
  case member =>
    intro c hc v hlt
    rw [Graph.valuesOf, Link.mem_targets, haccepts.mem_membership, hD.membership_eq, hiri,
      hD.addMember_mem_iff hlt (hids hc)]
    exact or_iff_right List.not_mem_nil

end Declares

/-- **The graph that an assembly leads to portrays the statements.** -/
theorem portrays_assembledGraph (ss : List Statement) :
    Portrays (editionOf (topicsOf ss)) ss (assembledGraph ss) :=
  (declares_declaredGraph ss).portrays fun _ => mem_classIris_declaredGraph

end Ontotype

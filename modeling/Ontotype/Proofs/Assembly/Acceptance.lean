import Ontotype.Proofs.Assembly.Alike

set_option autoImplicit false

/-! # Which statements are accepted

An assembly is refused for two reasons. A statement may be one that its stage cannot read: the
comment is no text, or the object is no class of the ontology where one is needed. Or a class is
left that neither is declared to be one nor lies below one that is. Both are matters of what the
statements say, and neither depends on their order or on repetitions (`Readable.of_same`,
`Alike.validate_of_left`). -/

namespace Ontotype

open Vocabulary

variable {edition : Edition} {ss ss' : List Statement} {g h D : Graph} {s : Statement}
  {c c' : ClassId} {v : ValueId}

/-! ## Readable statements -/

/-- The object of the statement names a class of the ontology. -/
def NamesClass (edition : Edition) (ss : List Statement) (s : Statement) : Prop :=
  ∃ a, s.object.iri? = some a ∧ KnownClass edition ss a

/-- The statement gives a comment that is a text, or no comment. -/
def Statement.HasText (s : Statement) : Prop := s.kind = .comment → s.object.isLiteral = true

/-- Every statement can be read by each of the stages that take it. -/
structure Readable (edition : Edition) (ss : List Statement) : Prop where
  classes : ∀ s ∈ ss, DescribesClass ss s.subject →
    s.HasText ∧ (s.kind = .subClassOf ∧ s.object.isClassType = false ∨ s.kind = .supersededBy →
      NamesClass edition ss s)
  properties : ∀ s ∈ ss, Says ss s.subject .type rdfProperty →
    s.HasText ∧ (s.kind = .rangeIncludes ∨ s.kind = .domainIncludes → NamesClass edition ss s)
  values : ∀ s ∈ ss, IsValue ss s.subject → s.HasText
  types : ∀ a b, Says ss a .type b → b.isMetaType = false → KnownClass edition ss b

/-- Where the statements about classes can be read, every superclass that is named is known. -/
theorem known_of_saysBelow {a b : Iri} (hread : ∀ s ∈ ss, DescribesClass ss s.subject →
      s.HasText ∧ (s.kind = .subClassOf ∧ s.object.isClassType = false ∨ s.kind = .supersededBy →
        NamesClass edition ss s))
    (hab : SaysBelow ss a b) : KnownClass edition ss b := by
  have hclass := hab.describesClass
  obtain ⟨s, hs, rfl, hkind, htype, hobject⟩ := hab
  obtain ⟨b', hobject', hknown⟩ := (hread s hs hclass).2 (Or.inl ⟨hkind, htype⟩)
  rwa [Option.some.inj (hobject.symm.trans hobject')]

theorem ok_pure (es : List Edit) : Reading.Ok (.ok es) := ⟨es, rfl⟩

theorem ok_comment?_iff {f : Option String → List Edit} :
    Reading.Ok (s.comment?.map f) ↔ s.HasText := by
  unfold Statement.HasText Statement.comment? Reading.Ok
  by_cases hkind : s.kind = .comment
  · cases s.object <;> simp [hkind, Except.map, Term.isLiteral]
  · cases s.object <;> simp [hkind, Except.map]

theorem ok_readClassStatement_iff (hc : g.find? s.subject = some c) :
    (readClassStatement g s).Ok ↔ s.HasText ∧
      (s.kind = .subClassOf ∧ s.object.isClassType = false ∨ s.kind = .supersededBy →
        (g.named? s).isSome = true) := by
  unfold Statement.HasText
  rw [readClassStatement, hc]
  dsimp only
  cases hkind : s.kind with
  | comment => simp [ok_comment?_iff, Statement.HasText, hkind]
  | subClassOf => cases s.object.isClassType <;> simp [ok_pure, ok_resolve_iff]
  | supersededBy => simp [ok_resolve_iff]
  | type => cases s.object.isClassType <;> cases s.object.isLiteral <;> simp [ok_pure]
  | _ => simp [ok_pure]

theorem ok_readPropertyStatement_iff (g : Graph) (p : PropertyId) (s : Statement) :
    (readPropertyStatement g p s).Ok ↔ s.HasText ∧
      (s.kind = .rangeIncludes ∨ s.kind = .domainIncludes → (g.named? s).isSome = true) := by
  unfold Statement.HasText
  rw [readPropertyStatement]
  cases hkind : s.kind with
  | comment => simp [ok_comment?_iff, Statement.HasText, hkind]
  | rangeIncludes => simp [ok_resolve_iff]
  | domainIncludes => simp [ok_resolve_iff]
  | type => cases s.object.isLiteral <;> simp [ok_pure]
  | _ => simp [ok_pure]

theorem ok_readValueStatement_iff (v : ValueId) (elsewhere : Bool) (s : Statement) :
    (readValueStatement v elsewhere s).Ok ↔ s.HasText := by
  unfold Statement.HasText
  rw [readValueStatement]
  cases hkind : s.kind with
  | comment => simp [ok_comment?_iff, Statement.HasText, hkind]
  | type => simp [ok_pure]
  | _ => cases elsewhere <;> simp [ok_pure]

theorem ok_readValueType_iff (g : Graph) (v : ValueId) (subject type : Iri) :
    (readValueType g v subject type).Ok ↔ (g.find? type).isSome = true := by
  rw [readValueType]
  cases g.find? type <;> simp [Reading.Ok]

/-! ## Stages that are not stopped -/

theorem forall_mem_zipIdx {α : Type} {P : α → Prop} {n : Nat} (xs : List α) :
    (∀ x ∈ xs.zipIdx n, P x.1) ↔ ∀ x ∈ xs, P x := by
  have hmap : (xs.zipIdx n).map Prod.fst = xs := List.zipIdx_map_fst n xs
  rw [← List.forall_mem_map, hmap]

theorem isSome_named?_iff (hD : ∀ a, a ∈ D.classIris ↔ KnownClass edition ss a) (s : Statement) :
    (D.named? s).isSome = true ↔ NamesClass edition ss s := by
  unfold NamesClass Graph.named?
  cases s.object.iri? with
  | none => simp
  | some a => simp [Graph.isSome_find?_iff, hD]

/-- The topics that a filter keeps, statement by statement. -/
theorem forall_mem_filter_topicsOf {P : Statement → Prop} {p : Topic → Bool} :
    (∀ t ∈ (topicsOf ss).filter p, ∀ s ∈ t.statements, P s) ↔
      ∀ s ∈ ss, p (topicAbout ss s.subject) = true → P s := by
  constructor
  · intro hall s hs hp
    refine hall (topicAbout ss s.subject) (List.mem_filter.2 ⟨?_, hp⟩) s
      (mem_statements_topicAbout.2 ⟨hs, rfl⟩)
    exact mem_topicsOf.2 ⟨mem_subjects.2 ⟨s, hs, rfl⟩, rfl⟩
  · intro hall t ht s hs
    obtain ⟨ht, hp⟩ := List.mem_filter.1 ht
    rw [(mem_topicsOf.1 ht).2] at hp hs
    obtain ⟨hs, hsubject⟩ := mem_statements_topicAbout.1 hs
    exact hall s hs (hsubject ▸ hp)

section

variable (hD : ∀ a, a ∈ D.classIris ↔ KnownClass edition ss a)

include hD

theorem ok_readClasses_iff : (∀ r ∈ readClasses D (topicsOf ss), r.Ok) ↔
    ∀ s ∈ ss, DescribesClass ss s.subject →
      s.HasText ∧ (s.kind = .subClassOf ∧ s.object.isClassType = false ∨ s.kind = .supersededBy →
        NamesClass edition ss s) := by
  have hread : ∀ s, DescribesClass ss s.subject → ((readClassStatement D s).Ok ↔
      s.HasText ∧ (s.kind = .subClassOf ∧ s.object.isClassType = false ∨ s.kind = .supersededBy →
        NamesClass edition ss s)) := by
    intro s hclass
    obtain ⟨c, hc⟩ := Option.isSome_iff_exists.1
      (Graph.isSome_find?_iff.2 ((hD s.subject).2 (Or.inr hclass)))
    rw [ok_readClassStatement_iff hc, isSome_named?_iff hD]
  -- a statement is read with the topic of its subject, and with no other
  simp only [readClasses, List.mem_flatMap, List.mem_map]
  constructor
  · intro hall s hs hclass
    obtain ⟨t, ht, hst⟩ := exists_classTopic_iff.2 ⟨hs, hclass⟩
    exact (hread s hclass).1 (hall _ ⟨t, ht, s, hst, rfl⟩)
  · rintro hall _ ⟨t, ht, s, hst, rfl⟩
    obtain ⟨hs, hclass⟩ := exists_classTopic_iff.1 ⟨t, ht, hst⟩
    exact (hread s hclass).2 (hall s hs hclass)

theorem ok_readProperties_iff : (∀ r ∈ readProperties D (topicsOf ss), r.Ok) ↔
    ∀ s ∈ ss, Says ss s.subject .type rdfProperty →
      s.HasText ∧ (s.kind = .rangeIncludes ∨ s.kind = .domainIncludes →
        NamesClass edition ss s) := by
  simp only [readProperties, List.forall_mem_flatMap, List.forall_mem_cons, List.forall_mem_map,
    ok_pure, true_and, ok_readPropertyStatement_iff, isSome_named?_iff hD]
  refine (forall_mem_zipIdx (P := fun t : Topic => ∀ s ∈ t.statements, s.HasText ∧
    (s.kind = .rangeIncludes ∨ s.kind = .domainIncludes → NamesClass edition ss s)) _).trans ?_
  rw [forall_mem_filter_topicsOf]
  simp only [isProperty_topicAbout]

theorem ok_readValues_iff : (∀ r ∈ readValues D (topicsOf ss), r.Ok) ↔
    (∀ s ∈ ss, IsValue ss s.subject → s.HasText) ∧
      ∀ a b, Says ss a .type b → b.isMetaType = false → KnownClass edition ss b := by
  simp only [readValues, List.forall_mem_flatMap, List.forall_mem_cons, List.forall_mem_append,
    List.forall_mem_map, ok_pure, true_and, ok_readValueStatement_iff, ok_readValueType_iff]
  refine (forall_mem_zipIdx (P := fun t : Topic => (∀ type ∈ t.declaredTypes.filter (!·.isMetaType),
    (D.find? type).isSome = true) ∧ ∀ s ∈ t.statements, s.HasText) _).trans ?_
  rw [forall₂_and, and_comm, forall_mem_filter_topicsOf]
  simp only [hasEnumType_topicAbout]
  refine and_congr_right fun _ => ?_
  constructor
  · intro hall a b htype hmeta
    have ht : topicAbout ss a ∈ (topicsOf ss).filter Topic.hasEnumType := by
      have henum := hasEnumType_topicAbout.2 ⟨b, htype, hmeta⟩
      obtain ⟨s, hs, hsubject, _⟩ := htype
      exact List.mem_filter.2
        ⟨mem_topicsOf.2 ⟨mem_subjects.2 ⟨s, hs, hsubject⟩, rfl⟩, henum⟩
    have hb := hall _ ht b (List.mem_filter.2 ⟨mem_declaredTypes.2 htype, by simp [hmeta]⟩)
    exact (hD b).1 (Graph.isSome_find?_iff.1 hb)
  · intro hall t ht b hb
    obtain ⟨hb, hmeta⟩ := List.mem_filter.1 hb
    rw [(mem_topicsOf.1 (List.mem_of_mem_filter ht)).2, mem_declaredTypes] at hb
    exact Graph.isSome_find?_iff.2 ((hD b).2 (hall _ b hb (by simpa using hmeta)))

theorem readings_ok_iff : (∀ part : Part, ∀ r ∈ part.readings D (topicsOf ss), r.Ok) ↔
    Readable edition ss := by
  constructor
  · intro hok
    obtain ⟨hvalues, htypes⟩ := (ok_readValues_iff hD).1 (hok .values)
    exact ⟨(ok_readClasses_iff hD).1 (hok .classes), (ok_readProperties_iff hD).1 (hok .properties),
      hvalues, htypes⟩
  · intro hread part
    cases part with
    | classes => exact (ok_readClasses_iff hD).2 hread.classes
    | properties => exact (ok_readProperties_iff hD).2 hread.properties
    | values => exact (ok_readValues_iff hD).2 ⟨hread.values, hread.types⟩

end

/-! ## Valid graphs -/

/-- Whether a class is classified is decided as soon as the classes are linked: the later stages
    link none, and mark none. -/
theorem isClassified_classes (ss : List Statement) (hdeclared : D = declaredGraph (topicsOf ss))
    (hc : c ∈ D.ids) : (D.edits (stageEdits D (topicsOf ss) .classes)).isClassified c = true ↔
      (assembledGraph ss).isClassified c = true := by
  have hD : Declares (editionOf (topicsOf ss)) ss D := hdeclared ▸ declares_declaredGraph ss
  have hall := accepts_allEdits hD.properties_eq hD.values_eq (topicsOf ss)
  have hclasses := accepts_classes D (topicsOf ss)
  have hids : ∀ es : List Edit, c ∈ (D.edits es).ids := fun es => Graph.ids_edits D es ▸ hc
  -- parents and marks are given by edits of the first stage only
  have hbelow : (D.edits (stageEdits D (topicsOf ss) .classes)).Below =
      (D.edits (allEdits D (topicsOf ss))).Below := by
    funext c p
    unfold Graph.Below Graph.parents
    rw [Link.mem_targets, Link.mem_targets, hclasses.mem_superclass, hall.mem_superclass,
      mem_allEdits hD.properties_eq hD.values_eq rfl]
  have hmarked : ∀ a, ((D.edits (stageEdits D (topicsOf ss) .classes)).entry a).marked = true ↔
      ((D.edits (allEdits D (topicsOf ss))).entry a).marked = true := by
    intro a
    rw [hclasses.marked_iff, hall.marked_iff, mem_allEdits hD.properties_eq hD.values_eq rfl]
  rw [assembledGraph, ← hdeclared, Graph.isClassified_iff (hD.inRange.edits hclasses) (hids _),
    Graph.isClassified_iff (hD.inRange.edits hall) (hids _)]
  simp only [Graph.Above, hbelow, hmarked]

theorem validate_classes_iff (ss : List Statement) (hdeclared : D = declaredGraph (topicsOf ss)) :
    (D.edits (stageEdits D (topicsOf ss) .classes)).validate = .ok () ↔
      (assembledGraph ss).validate = .ok () := by
  have hids : (assembledGraph ss).ids = D.ids := by
    rw [assembledGraph, ← hdeclared, Graph.ids_edits]
  rw [Graph.validate_eq_ok_iff, Graph.validate_eq_ok_iff, Graph.ids_edits, hids]
  exact forall₂_congr fun c hc => isClassified_classes ss hdeclared hc

theorem Alike.validate_of_left (halike : Alike edition ss ss' g h)
    (hvalid : g.validate = .ok ()) : h.validate = .ok () := by
  rw [Graph.validate_eq_ok_iff] at hvalid ⊢
  intro c' hc'
  obtain ⟨c, hsame⟩ := halike.symm.hierarchy.exists_right hc'
  obtain ⟨a, ha, hmarked⟩ :=
    (Graph.isClassified_iff halike.left.inRange hsame.2.1).1 (hvalid c hsame.2.1)
  obtain ⟨a', hsame', ha'⟩ := halike.hierarchy.exists_ancestor_right hsame.symm ha
  exact (Graph.isClassified_iff halike.right.inRange hc').2
    ⟨a', ha', (halike.marked_iff hsame').1 hmarked⟩

/-! ## Accepted ontologies -/

theorem exists_assemble_iff (ss : List Statement) : (∃ b, assemble (topicsOf ss) = .ok b) ↔
    Readable (editionOf (topicsOf ss)) ss ∧ (assembledGraph ss).validate = .ok () := by
  simp only [assemble_eq_ok_iff rfl, exists_and_left, exists_eq, and_true]
  exact and_congr (readings_ok_iff fun a => mem_classIris_declaredGraph)
    (validate_classes_iff ss rfl)

theorem Readable.of_same (hss : SameStatements ss ss') (hread : Readable edition ss) :
    Readable edition ss' := by
  have hnames : ∀ {s}, NamesClass edition ss s → NamesClass edition ss' s := by
    rintro s ⟨a, ha, hknown⟩
    exact ⟨a, ha, hss.knownClass.1 hknown⟩
  constructor
  · intro s hs hclass
    obtain ⟨htext, hobject⟩ := hread.classes s ((hss s).2 hs) (hss.describesClass.2 hclass)
    exact ⟨htext, fun hkind => hnames (hobject hkind)⟩
  · intro s hs hproperty
    obtain ⟨htext, hobject⟩ := hread.properties s ((hss s).2 hs) (hss.fact_iff.2 hproperty)
    exact ⟨htext, fun hkind => hnames (hobject hkind)⟩
  · intro s hs hvalue
    exact hread.values s ((hss s).2 hs) (hss.isValue.2 hvalue)
  · intro a b htype hmeta
    exact hss.knownClass.1 (hread.types a b (hss.fact_iff.2 htype) hmeta)

end Ontotype

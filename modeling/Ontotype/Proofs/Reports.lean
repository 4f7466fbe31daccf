import Mathlib.Data.List.Perm.Subperm
import Ontotype.Proofs.Assembly.Findings
import Ontotype.Proofs.Declaration.Hiding

set_option autoImplicit false

/-! # Statements of no use

A subject may describe a class, a property and an enumeration value, and each of the three has a use
for some of the statements about it. What is reported is decided by each of them on its own: a
statement is reported once for every stage that takes up its topic and has no use for it, where only
the values leave to the other two what the other two have seen (`unrecognized_of_compile`).

So reports and statements of no use do not match. Nobody takes up a subject that describes nothing,
and a builtin class that is a value of an enumeration is left to a stage that does not take it up:
of these, nothing is reported (`unrecognized_mem_iff`). A subject that describes a class and a
property is reported by one for what the other one uses, and by both for what none uses. -/

namespace Ontotype

open Vocabulary

variable {edition : Edition} {o : Options} {ss : List Statement} {r : Compiled} {b : Build}
  {s : Statement} {a : Iri} {part : Part}

/-! ## Uses of a statement -/

/-- The stage takes up the topic of `a`. -/
def Part.Takes (part : Part) (ss : List Statement) (a : Iri) : Prop :=
  a ∈ (part.topics (topicsOf ss)).map Topic.subject

instance : Decidable (part.Takes ss a) := inferInstanceAs (Decidable (a ∈ List.map _ _))

/-- A class, a property or an enumeration value that the subject describes has a use for the
    statement. -/
def Used (ss : List Statement) (s : Statement) : Prop :=
  DescribesClass ss s.subject ∧ s.uselessForClass = false ∨
    Says ss s.subject .type rdfProperty ∧ s.uselessForProperty = false ∨
    IsValue ss s.subject ∧ s.uselessForValue = false

/-- Two that the subject describes may differ over the statement: a class and a property, or an
    enumeration value and another one if a text is given for a type. -/
def Disputed (ss : List Statement) (s : Statement) : Prop :=
  DescribesClass ss s.subject ∧ Says ss s.subject .type rdfProperty ∨
    (s.kind = .type ∧ s.object.isLiteral = true) ∧ IsValue ss s.subject

/-- The subject describes something that answers for it: a class, a property, or an enumeration
    value that is no builtin class. -/
def Described (ss : List Statement) (a : Iri) : Prop :=
  DescribesClass ss a ∨ Says ss a .type rdfProperty ∨
    IsValue ss a ∧ a ∉ seedIris (editionOf (topicsOf ss))

instance : Decidable (DescribesClass ss a) := inferInstanceAs (Decidable (a ∈ List.map _ _))

instance : Decidable (Says ss a .type rdfProperty) := decidable_of_iff _ isProperty_topicAbout

instance : Decidable (IsValue ss a) := decidable_of_iff _ hasEnumType_topicAbout

instance : Decidable (Used ss s) := inferInstanceAs (Decidable (_ ∨ _ ∨ _))

instance : Decidable (Disputed ss s) := inferInstanceAs (Decidable (_ ∨ _))

theorem takes_properties_iff : Part.properties.Takes ss a ↔ Says ss a .type rdfProperty := by
  rw [Part.Takes, Part.topics, map_subject_filter_topicsOf, List.mem_filter, isProperty_topicAbout]
  refine and_iff_right_of_imp ?_
  rintro ⟨s, hs, hsubject, _⟩
  exact mem_subjects.2 ⟨s, hs, hsubject⟩

theorem takes_values_iff : Part.values.Takes ss a ↔ IsValue ss a := by
  rw [Part.Takes, Part.topics, map_subject_filter_topicsOf, List.mem_filter, hasEnumType_topicAbout]
  refine and_iff_right_of_imp ?_
  rintro ⟨_, ⟨s, hs, hsubject, _⟩, _⟩
  exact mem_subjects.2 ⟨s, hs, hsubject⟩

theorem reports_values_iff : Part.values.reports ss s = true ↔ s.uselessForValue = true ∧
    ¬ KnownClass (editionOf (topicsOf ss)) ss s.subject ∧
      ¬ Says ss s.subject .type rdfProperty := by
  have helsewhere : describedElsewhere ss s.subject = true ↔
      KnownClass (editionOf (topicsOf ss)) ss s.subject ∨ Says ss s.subject .type rdfProperty := by
    rw [describedElsewhere, Bool.or_eq_true, Graph.isSome_find?_iff, mem_classIris_declaredGraph,
      isProperty_topicAbout]
  rw [Part.reports, Bool.and_eq_true, Bool.not_eq_true', ← Bool.not_eq_true, helsewhere, not_or]

/-- What a class or a property has no use for is of use for a value only as a type. -/
theorem type_of_useless (huseless : s.uselessForClass = true ∨ s.uselessForProperty = true)
    (hvalue : s.uselessForValue = false) : s.kind = .type ∧ s.object.isLiteral = true := by
  unfold Statement.uselessForClass Statement.uselessForProperty at huseless
  unfold Statement.uselessForValue at hvalue
  cases hkind : s.kind <;> simp_all

/-! ## What is reported -/

/-- The statements that are reported, in order. -/
def reportedStatements (ss : List Statement) : List Statement :=
  Part.all.flatMap fun part => (part.statements ss).filter (part.reports ss)

theorem unrecognized_findings (g : Graph) (e : Edit) :
    Diagnostic.ofKind .unrecognizedStatement (e.findings g) =
      e.reported?.toList.map .unrecognized := by
  cases hcommented : e.commented? with
  | none =>
      rw [Edit.findings_of_not_commented hcommented]
      cases e.reported? <;> rfl
  | some x =>
      rw [Edit.findings_of_commented hcommented, Edit.reported?_of_commented hcommented]
      split <;> rfl

theorem unrecognized_foldl (es : List Edit) : ∀ b : Build,
    Diagnostic.ofKind .unrecognizedStatement (es.foldl Build.apply b).findings =
      Diagnostic.ofKind .unrecognizedStatement b.findings
        ++ (es.filterMap Edit.reported?).map .unrecognized := by
  induction es with
  | nil => exact fun _ => (List.append_nil _).symm
  | cons e es ih =>
      intro b
      have hstep := unrecognized_findings b.graph e
      unfold Diagnostic.ofKind at ih hstep ⊢
      rw [List.foldl_cons, ih, Build.findings_apply, List.filter_append, hstep, List.append_assoc,
        List.filterMap_cons]
      cases e.reported? <;> rfl

theorem unrecognized_of_assemble (h : assemble (topicsOf ss) = .ok b) :
    Diagnostic.ofKind .unrecognizedStatement b.findings =
      (reportedStatements ss).map .unrecognized := by
  obtain ⟨_, _, rfl⟩ := (assemble_eq_ok_iff rfl).1 h
  rw [unrecognized_foldl, allEdits_eq, List.filterMap_flatMap]
  simp only [reported_stageEdits]
  rfl

/-- The findings about statements of no use are those of the stages, in their order. -/
theorem unrecognized_of_compile_eq (h : compile o ss = .ok r) :
    Diagnostic.ofKind .unrecognizedStatement r.findings =
      (reportedStatements ss).map .unrecognized := by
  obtain ⟨_, b, hb, rfl⟩ := compile_eq_ok_iff.1 h
  rw [← unrecognized_of_assemble hb]
  exact filter_findings_of_compiled (fun f hf => by simp [hf]) b o

/-- A stage reads the statements whose topics it takes up. -/
theorem Part.statements_perm_filter (part : Part) (ss : List Statement) :
    (part.statements ss).Perm (ss.filter fun s => part.Takes ss s.subject) := by
  have htopics : ∀ p : Topic → Bool,
      (((topicsOf ss).filter p).flatMap Topic.statements).Perm
        (ss.filter fun s => s.subject ∈ ((topicsOf ss).filter p).map Topic.subject) := by
    intro p
    refine (flatMap_statements_perm ss p).trans (List.Perm.of_eq (List.filter_congr ?_))
    intro s hs
    have hsubject : s.subject ∈ subjects ss := mem_subjects.2 ⟨s, hs, rfl⟩
    rw [map_subject_filter_topicsOf]
    simp [hsubject]
  cases part with
  | classes => exact htopics _
  | properties => exact htopics _
  | values => exact htopics _

/-- The stages that report the statement. -/
def reportingParts (ss : List Statement) (s : Statement) : List Part :=
  Part.all.filter fun part => part.Takes ss s.subject ∧ part.reports ss s = true

theorem count_flatMap_of_ite {α β : Type} [DecidableEq β] {f : α → List β} {p : α → Bool} {y : β}
    {n : Nat} (hf : ∀ x, (f x).count y = if p x then n else 0) (xs : List α) :
    (xs.flatMap f).count y = (xs.filter p).length * n := by
  induction xs with
  | nil => exact (Nat.zero_mul n).symm
  | cons x xs ih =>
      rw [List.flatMap_cons, List.count_append, ih, hf, List.filter_cons]
      split
      · rw [List.length_cons, Nat.succ_mul, Nat.add_comm]
      · exact Nat.zero_add _

/-- A statement is reported, as often as it is made, by every stage that takes up its topic and has
    no use for it. -/
theorem count_reportedStatements (ss : List Statement) (s : Statement) :
    (reportedStatements ss).count s = (reportingParts ss s).length * ss.count s := by
  rw [reportedStatements, reportingParts]
  refine count_flatMap_of_ite (fun part => ?_) _
  rw [((part.statements_perm_filter ss).filter _).count_eq, List.filter_filter]
  split
  · next h => exact List.count_filter (by simpa [and_comm] using h)
  · next h =>
      refine List.count_eq_zero.2 fun hmem => h ?_
      simpa [and_comm] using List.of_mem_filter hmem

theorem mem_reportedStatements (hs : s ∈ ss) :
    s ∈ reportedStatements ss ↔ reportingParts ss s ≠ [] := by
  rw [← List.count_pos_iff, count_reportedStatements, ← List.length_pos_iff]
  exact ⟨fun h => Nat.pos_of_mul_pos_right h, fun h => Nat.mul_pos h (List.count_pos_iff.2 hs)⟩

theorem mem_reportingParts : part ∈ reportingParts ss s ↔
    part.Takes ss s.subject ∧ part.reports ss s = true := by
  rw [reportingParts, List.mem_filter, decide_eq_true_iff]
  exact and_iff_right (by cases part <;> decide)

/-! ## Reports that are missing -/

/-- A statement of no use is reported by some stage if its subject describes something that answers
    for it. -/
theorem exists_reportingPart (hunused : ¬ Used ss s) (h : Described ss s.subject) :
    ∃ part, part ∈ reportingParts ss s := by
  unfold Used at hunused
  simp only [not_or, not_and, Bool.not_eq_false] at hunused
  obtain ⟨hclass, hproperty, hvalue⟩ := hunused
  by_cases hdescribes : DescribesClass ss s.subject
  · exact ⟨.classes, mem_reportingParts.2 ⟨hdescribes, hclass hdescribes⟩⟩
  by_cases hdeclares : Says ss s.subject .type rdfProperty
  · exact ⟨.properties,
      mem_reportingParts.2 ⟨takes_properties_iff.2 hdeclares, hproperty hdeclares⟩⟩
  obtain ⟨hisValue, hseed⟩ := (h.resolve_left hdescribes).resolve_left hdeclares
  refine ⟨.values, mem_reportingParts.2 ⟨takes_values_iff.2 hisValue, ?_⟩⟩
  exact reports_values_iff.2 ⟨hvalue hisValue, not_or.2 ⟨hseed, hdescribes⟩, hdeclares⟩

/-- Of a subject that nothing answers for, no statement is reported. -/
theorem reportingParts_eq_nil (h : ¬ Described ss s.subject) : reportingParts ss s = [] := by
  unfold Described at h
  simp only [not_or, not_and, not_not] at h
  obtain ⟨hclass, hproperty, hvalue⟩ := h
  refine List.eq_nil_iff_forall_not_mem.2 fun part hpart => ?_
  obtain ⟨htakes, hreports⟩ := mem_reportingParts.1 hpart
  cases part with
  | classes => exact hclass htakes
  | properties => exact hproperty (takes_properties_iff.1 htakes)
  | values =>
      obtain ⟨_, hunknown, _⟩ := reports_values_iff.1 hreports
      exact hunknown (Or.inl (hvalue (takes_values_iff.1 htakes)))

/-- **A statement of no use is reported if and only if its subject describes something that answers
    for it.** If it does not, nothing at all about the subject is reported as unrecognized. -/
theorem unrecognized_mem_iff (h : compile o ss = .ok r) (hs : s ∈ ss) (hunused : ¬ Used ss s) :
    (.unrecognized s ∈ r.findings ↔ Described ss s.subject) ∧
      (¬ Described ss s.subject →
        ∀ f ∈ Diagnostic.ofKind .unrecognizedStatement r.findings, f.subject ≠ s.subject) := by
  have hreported := unrecognized_of_compile_eq h
  have hnone : ¬ Described ss s.subject →
      ∀ f ∈ Diagnostic.ofKind .unrecognizedStatement r.findings, f.subject ≠ s.subject := by
    intro hundescribed f hf heq
    rw [hreported, List.mem_map] at hf
    obtain ⟨s', hs', rfl⟩ := hf
    have heq : s'.subject = s.subject := heq
    rw [← List.count_pos_iff, count_reportedStatements,
      reportingParts_eq_nil (heq ▸ hundescribed)] at hs'
    exact absurd hs' (by simp)
  refine ⟨⟨fun hmem => ?_, fun hdescribed => ?_⟩, hnone⟩
  · by_contra hundescribed
    exact hnone hundescribed _ (List.mem_filter.2 ⟨hmem, decide_eq_true rfl⟩) rfl
  · obtain ⟨part, hpart⟩ := exists_reportingPart hunused hdescribed
    have hmem := (mem_reportedStatements hs).2 (List.ne_nil_of_mem hpart)
    exact List.mem_of_mem_filter (hreported ▸ List.mem_map_of_mem hmem)

/-- The statement that labels a subject, which nothing has a use for. -/
def labelled (a : Iri) (text : String) : Statement :=
  { subject := a
    predicate := ⟨"http://www.w3.org/2000/01/rdf-schema#label"⟩
    object := .literal text none }

/-- An ontology with labels of a class, of a builtin class that is a value of the class, and of a
    subject that describes nothing. -/
def labelStatements : List Statement :=
  let term := Edition.https.term
  [{ subject := term "Kind", predicate := rdfType, object := .entity rdfsClass },
   { subject := term "Text", predicate := rdfType, object := .entity (term "Kind") },
   labelled (term "Kind") "Kind", labelled (term "Text") "Text",
   labelled ⟨"https://example.org/note"⟩ "Note"]

theorem isOk_compile_labelStatements : (compile {} labelStatements).isOk = true := by decide +kernel

theorem filter_labelStatements : labelStatements.filter (fun s => ¬ Used labelStatements s) =
    [labelled (Edition.https.term "Kind") "Kind", labelled (Edition.https.term "Text") "Text",
      labelled ⟨"https://example.org/note"⟩ "Note"] := by decide +kernel

theorem mem_and_not_used_of_mem {ss' : List Statement}
    (h : ss.filter (fun s => ¬ Used ss s) = ss') (hs : s ∈ ss') : s ∈ ss ∧ ¬ Used ss s := by
  rw [← h, List.mem_filter, decide_eq_true_iff] at hs
  exact hs

theorem unrecognized_mem_labelStatements : ∃ r, compile {} labelStatements = .ok r ∧
    .unrecognized (labelled (Edition.https.term "Kind") "Kind") ∈ r.findings ∧
    ∀ f ∈ Diagnostic.ofKind .unrecognizedStatement r.findings,
      f.subject ≠ ⟨"https://example.org/note"⟩ := by
  obtain ⟨r, hr⟩ := isOk_iff.1 isOk_compile_labelStatements
  obtain ⟨hkind, hunusedKind⟩ := mem_and_not_used_of_mem filter_labelStatements
    (s := labelled (Edition.https.term "Kind") "Kind") (by simp)
  obtain ⟨hnote, hunusedNote⟩ := mem_and_not_used_of_mem filter_labelStatements
    (s := labelled ⟨"https://example.org/note"⟩ "Note") (by simp)
  refine ⟨r, hr, ?_, (unrecognized_mem_iff hr hnote hunusedNote).2 ?_⟩
  · exact (unrecognized_mem_iff hr hkind hunusedKind).1.2 (Or.inl (by decide +kernel))
  · rintro (h | h | ⟨h, _⟩) <;> revert h <;> decide +kernel

/-- Statements of no use may go without a report: those about a subject that describes nothing, and
    those about a builtin class that is a value of an enumeration. -/
theorem unreported_labelStatements : ∃ r, compile {} labelStatements = .ok r ∧
    ∀ s ∈ [labelled (Edition.https.term "Text") "Text",
        labelled ⟨"https://example.org/note"⟩ "Note"],
      s ∈ labelStatements ∧ ¬ Used labelStatements s ∧ .unrecognized s ∉ r.findings := by
  obtain ⟨r, hr⟩ := isOk_iff.1 isOk_compile_labelStatements
  have hreported : reportedStatements labelStatements =
      [labelled (Edition.https.term "Kind") "Kind"] := by decide +kernel
  refine ⟨r, hr, fun s hs => ?_⟩
  obtain ⟨hmem, hunused⟩ := mem_and_not_used_of_mem filter_labelStatements
    (List.mem_cons_of_mem _ hs)
  refine ⟨hmem, hunused, fun hfinding => ?_⟩
  have hfinding : .unrecognized s ∈ Diagnostic.ofKind .unrecognizedStatement r.findings :=
    List.mem_filter.2 ⟨hfinding, decide_eq_true rfl⟩
  rw [unrecognized_of_compile_eq hr, hreported, List.map_singleton, List.mem_singleton] at hfinding
  have hsubject : s.subject = Edition.https.term "Kind" := congrArg Diagnostic.subject hfinding
  rw [List.mem_cons, List.mem_singleton] at hs
  rcases hs with rfl | rfl <;> exact absurd hsubject (by decide)

/-! ## Reports that are too many -/

theorem mem_reportingParts_properties : .properties ∈ reportingParts ss s ↔
    Says ss s.subject .type rdfProperty ∧ s.uselessForProperty = true := by
  rw [mem_reportingParts, takes_properties_iff]
  rfl

/-- A stage that leaves the statement to the other two reports none that they have seen. -/
theorem of_mem_reportingParts_values (h : .values ∈ reportingParts ss s) :
    s.uselessForValue = true ∧ ¬ DescribesClass ss s.subject ∧
      ¬ Says ss s.subject .type rdfProperty := by
  obtain ⟨huseless, hunknown, hdeclares⟩ := reports_values_iff.1 (mem_reportingParts.1 h).2
  exact ⟨huseless, fun hclass => hunknown (Or.inr hclass), hdeclares⟩

/-- Where there is no dispute, no other stage reports a statement than that of the first thing that
    its subject describes. -/
theorem eq_of_mem_reportingParts (hclear : ¬ Disputed ss s) (hpart : part ∈ reportingParts ss s) :
    part = if DescribesClass ss s.subject then .classes
      else if Says ss s.subject .type rdfProperty then .properties else .values := by
  cases part with
  | classes => exact (if_pos (mem_reportingParts.1 hpart).1).symm
  | properties =>
      have hdeclares := (mem_reportingParts_properties.1 hpart).1
      rw [if_neg fun hclass => hclear (Or.inl ⟨hclass, hdeclares⟩), if_pos hdeclares]
  | values =>
      obtain ⟨_, hclass, hdeclares⟩ := of_mem_reportingParts_values hpart
      rw [if_neg hclass, if_neg hdeclares]

theorem length_reportingParts_le (hclear : ¬ Disputed ss s) :
    (reportingParts ss s).length ≤ 1 := by
  have hnodup : (reportingParts ss s).Nodup := List.Nodup.filter _ (by decide)
  rw [List.eq_replicate_of_mem fun part hpart => eq_of_mem_reportingParts hclear hpart] at hnodup
  exact List.nodup_replicate.1 hnodup

/-- Where there is no dispute, a statement that is reported is of no use. -/
theorem not_used_of_mem_reportingParts (hclear : ¬ Disputed ss s)
    (hpart : part ∈ reportingParts ss s) : ¬ Used ss s := by
  have hboth := fun hclass hdeclares => hclear (Or.inl ⟨hclass, hdeclares⟩)
  have htype := fun htype hvalue => hclear (Or.inr ⟨htype, hvalue⟩)
  cases part with
  | classes =>
      obtain ⟨hclass, huseless⟩ := mem_reportingParts.1 hpart
      have huseless : s.uselessForClass = true := huseless
      rintro (⟨_, huse⟩ | ⟨hdeclares, _⟩ | ⟨hvalue, huse⟩)
      · exact absurd huseless (by simp [huse])
      · exact hboth hclass hdeclares
      · exact htype (type_of_useless (Or.inl huseless) huse) hvalue
  | properties =>
      obtain ⟨hdeclares, huseless⟩ := mem_reportingParts_properties.1 hpart
      rintro (⟨hclass, _⟩ | ⟨_, huse⟩ | ⟨hvalue, huse⟩)
      · exact hboth hclass hdeclares
      · exact absurd huseless (by simp [huse])
      · exact htype (type_of_useless (Or.inr huseless) huse) hvalue
  | values =>
      obtain ⟨huseless, hclass, hdeclares⟩ := of_mem_reportingParts_values hpart
      rintro (⟨hclass', _⟩ | ⟨hdeclares', _⟩ | ⟨_, huse⟩)
      · exact hclass hclass'
      · exact hdeclares hdeclares'
      · exact absurd huseless (by simp [huse])

/-- **Where there is no dispute, reports are matched by statements of no use.** The findings about
    statements of no use are those of a list of statements, in which each of the given ones stands
    as often as it is made for every stage that takes up its topic and has no use for it. But for
    disputed ones, these are distinct occurrences of statements that nothing has a use for. -/
theorem unrecognized_of_compile (h : compile o ss = .ok r) : ∃ reported : List Statement,
    Diagnostic.ofKind .unrecognizedStatement r.findings = reported.map .unrecognized ∧
      (∀ s, reported.count s = (reportingParts ss s).length * ss.count s) ∧
      (reported.filter fun s => ¬ Disputed ss s).Subperm (ss.filter fun s => ¬ Used ss s) := by
  refine ⟨_, unrecognized_of_compile_eq h, count_reportedStatements ss, ?_⟩
  rw [List.subperm_ext_iff]
  intro s hs
  obtain ⟨hreported, hclear⟩ := List.mem_filter.1 hs
  have hclear := of_decide_eq_true hclear
  have hcount := count_reportedStatements ss s
  have hparts : reportingParts ss s ≠ [] := by
    intro hnil
    rw [← List.count_pos_iff, hcount, hnil] at hreported
    exact absurd hreported (by simp)
  obtain ⟨part, hpart⟩ := List.exists_mem_of_ne_nil _ hparts
  have hunused := not_used_of_mem_reportingParts hclear hpart
  rw [List.count_filter (by simpa using hclear), List.count_filter (by simpa using hunused), hcount]
  calc (reportingParts ss s).length * ss.count s
      ≤ 1 * ss.count s := Nat.mul_le_mul_right _ (length_reportingParts_le hclear)
    _ = ss.count s := Nat.one_mul _

/-- An ontology in which `twin` is a class and a property with a range, and has a label like the
    class `Thing`. -/
def twinStatements : List Statement :=
  let term := Edition.https.term
  [{ subject := term "Thing", predicate := rdfType, object := .entity rdfsClass },
   { subject := term "twin", predicate := rdfType, object := .entity rdfsClass },
   { subject := term "twin", predicate := rdfType, object := .entity rdfProperty },
   { subject := term "twin", predicate := term "rangeIncludes", object := .entity (term "Thing") },
   labelled (term "twin") "Twin", labelled (term "Thing") "Thing"]

theorem isOk_compile_twinStatements : (compile {} twinStatements).isOk = true := by decide +kernel

theorem unrecognized_twinStatements : ∃ r, compile {} twinStatements = .ok r ∧
    ∃ reported : List Statement,
      Diagnostic.ofKind .unrecognizedStatement r.findings = reported.map .unrecognized ∧
      reported.count (labelled (Edition.https.term "Thing") "Thing") = 1 ∧
      reported.count (labelled (Edition.https.term "twin") "Twin") = 2 ∧
      (reported.filter fun s => ¬ Disputed twinStatements s).Subperm
        (twinStatements.filter fun s => ¬ Used twinStatements s) := by
  obtain ⟨r, hr⟩ := isOk_iff.1 isOk_compile_twinStatements
  obtain ⟨reported, hreported, hcount, hmatch⟩ := unrecognized_of_compile hr
  refine ⟨r, hr, reported, hreported, ?_, ?_, hmatch⟩
  · rw [hcount]
    decide +kernel
  · rw [hcount]
    decide +kernel

/-- Statements that something has a use for may be reported, and others twice, so that no statements
    of no use match the reports. -/
theorem unmatched_twinStatements : ∃ r, compile {} twinStatements = .ok r ∧
    ¬ ∃ reported : List Statement,
      Diagnostic.ofKind .unrecognizedStatement r.findings = reported.map .unrecognized ∧
        reported.Subperm (twinStatements.filter fun s => ¬ Used twinStatements s) := by
  obtain ⟨r, hr⟩ := isOk_iff.1 isOk_compile_twinStatements
  refine ⟨r, hr, ?_⟩
  rintro ⟨reported, hreported, hsub⟩
  have hlength : (reportedStatements twinStatements).length = 4 := by decide +kernel
  have hunused : (twinStatements.filter fun s => ¬ Used twinStatements s).length = 2 := by
    decide +kernel
  have hsame := congrArg List.length hreported
  rw [unrecognized_of_compile_eq hr, List.length_map, List.length_map, hlength] at hsame
  have hle := hsub.length_le
  omega

end Ontotype

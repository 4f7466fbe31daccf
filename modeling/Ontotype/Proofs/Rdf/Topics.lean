import Ontotype.Rdf.Topic
import Ontotype.Proofs.Sorted
import Mathlib.Data.List.Nodup

set_option autoImplicit false

/-! # What topics say

A topic holds the statements about one subject, so what topics say can be read off the statements
themselves: `Says` is the fact that some statement gives a subject a property, and the questions
that are put to topics are answered by such facts. They do not depend on the order of the
statements or on repetitions. Grouping loses and invents nothing: the statements of a selection of
topics are those about the selected subjects (`flatMap_statements_perm`). -/

namespace Ontotype

open Vocabulary

variable {ss : List Statement} {a b : Iri} {k : Predicate} {s : Statement} {t : Topic}

/-! ## Facts -/

/-- Some statement about `a` has a predicate of this kind, and its object names `b`. -/
def Says (ss : List Statement) (a : Iri) (k : Predicate) (b : Iri) : Prop :=
  ∃ s ∈ ss, s.subject = a ∧ s.kind = k ∧ s.object.iri? = some b

/-- Some statement names `b` as a superclass of `a`; to be below `rdfs:Class` is no such thing. -/
def SaysBelow (ss : List Statement) (a b : Iri) : Prop :=
  ∃ s ∈ ss, s.subject = a ∧ s.kind = .subClassOf ∧ s.object.isClassType = false ∧
    s.object.iri? = some b

/-- The statements are the same, in any order and any number. -/
def SameStatements (ss ss' : List Statement) : Prop := ∀ s, s ∈ ss ↔ s ∈ ss'

/-! ## Topics by subject -/

/-- The topic of a subject. -/
def topicAbout (ss : List Statement) (a : Iri) : Topic :=
  { subject := a, statements := ss.filter (·.subject = a) }

/-- The subjects of a list of statements, each once. -/
def subjects (ss : List Statement) : List Iri := (ss.map Statement.subject).eraseDups

theorem topicsOf_eq_map (ss : List Statement) : topicsOf ss = (subjects ss).map (topicAbout ss) :=
  rfl

theorem mem_subjects : a ∈ subjects ss ↔ ∃ s ∈ ss, s.subject = a := by
  rw [subjects, List.mem_eraseDups, List.mem_map]

theorem nodup_subjects (ss : List Statement) : (subjects ss).Nodup := nodup_eraseDups _

theorem mem_topicsOf : t ∈ topicsOf ss ↔ t.subject ∈ subjects ss ∧ t = topicAbout ss t.subject := by
  rw [topicsOf_eq_map, List.mem_map]
  constructor
  · rintro ⟨a, ha, rfl⟩
    exact ⟨ha, rfl⟩
  · rintro ⟨ht, heq⟩
    exact ⟨t.subject, ht, heq.symm⟩

theorem mem_statements_topicAbout : s ∈ (topicAbout ss a).statements ↔ s ∈ ss ∧ s.subject = a := by
  rw [topicAbout, List.mem_filter, decide_eq_true_iff]

theorem map_subject_topicsOf (ss : List Statement) :
    (topicsOf ss).map Topic.subject = subjects ss := by
  rw [topicsOf_eq_map, List.map_map]
  exact List.map_id _

theorem nodup_topicsOf (ss : List Statement) : (topicsOf ss).Nodup := by
  refine List.Nodup.of_map Topic.subject ?_
  rw [map_subject_topicsOf]
  exact nodup_subjects ss

/-- A selection of topics is a selection of subjects. -/
theorem filter_topicsOf (ss : List Statement) (p : Topic → Bool) :
    (topicsOf ss).filter p =
      ((subjects ss).filter fun a => p (topicAbout ss a)).map (topicAbout ss) := by
  rw [topicsOf_eq_map, List.filter_map]
  rfl

theorem map_subject_filter_topicsOf (ss : List Statement) (p : Topic → Bool) :
    ((topicsOf ss).filter p).map Topic.subject =
      (subjects ss).filter fun a => p (topicAbout ss a) := by
  rw [filter_topicsOf, List.map_map]
  exact List.map_id _

/-! ## Questions to a topic -/

theorem mem_declaredTypes : b ∈ (topicAbout ss a).declaredTypes ↔ Says ss a .type b := by
  rw [Topic.declaredTypes, List.mem_eraseDups, List.mem_filterMap]
  constructor
  · rintro ⟨s, hs, htype⟩
    rw [mem_statements_topicAbout] at hs
    rw [Statement.declaredType?] at htype
    split at htype
    · next hkind => exact ⟨s, hs.1, hs.2, hkind, htype⟩
    · exact absurd htype (by simp)
  · rintro ⟨s, hs, hsub, hkind, hobj⟩
    refine ⟨s, mem_statements_topicAbout.2 ⟨hs, hsub⟩, ?_⟩
    rw [Statement.declaredType?, if_pos hkind, hobj]

theorem isClass_topicAbout : (topicAbout ss a).isClass = true ↔ Says ss a .type rdfsClass := by
  rw [Topic.isClass, List.any_eq_true]
  constructor
  · rintro ⟨b, hb, heq⟩
    rw [← of_decide_eq_true heq]
    exact mem_declaredTypes.1 hb
  · exact fun h => ⟨rdfsClass, mem_declaredTypes.2 h, decide_eq_true rfl⟩

theorem isProperty_topicAbout :
    (topicAbout ss a).isProperty = true ↔ Says ss a .type rdfProperty := by
  rw [Topic.isProperty, List.any_eq_true]
  constructor
  · rintro ⟨b, hb, heq⟩
    rw [← of_decide_eq_true heq]
    exact mem_declaredTypes.1 hb
  · exact fun h => ⟨rdfProperty, mem_declaredTypes.2 h, decide_eq_true rfl⟩

theorem isDataType_topicAbout : (topicAbout ss a).isDataType = true ↔
    ∃ b, Says ss a .type b ∧ b.isSchema "DataType" = true := by
  rw [Topic.isDataType, List.any_eq_true]
  exact exists_congr fun b => and_congr_left fun _ => mem_declaredTypes

theorem hasEnumType_topicAbout : (topicAbout ss a).hasEnumType = true ↔
    ∃ b, Says ss a .type b ∧ b.isMetaType = false := by
  rw [Topic.hasEnumType, hasEnumType, List.any_eq_true]
  refine exists_congr fun b => ?_
  rw [mem_declaredTypes, Bool.not_eq_true']

theorem hasSubClassOf_topicAbout : (topicAbout ss a).hasSubClassOf = true ↔
    ∃ s ∈ ss, s.subject = a ∧ s.kind = .subClassOf := by
  rw [Topic.hasSubClassOf, List.any_eq_true]
  refine exists_congr fun s => ?_
  rw [mem_statements_topicAbout, decide_eq_true_iff, and_assoc]

/-! ## Topics that describe classes -/

theorem mem_superclasses : b ∈ superclasses (topicsOf ss) ↔ ∃ a, SaysBelow ss a b := by
  simp only [superclasses, List.mem_filterMap, List.mem_filter, List.mem_flatMap,
    Bool.and_eq_true, Bool.not_eq_true', decide_eq_true_iff]
  constructor
  · rintro ⟨s, ⟨⟨t, ht, hs⟩, hkind, hclass⟩, hobj⟩
    rw [(mem_topicsOf.1 ht).2, mem_statements_topicAbout] at hs
    exact ⟨s.subject, s, hs.1, rfl, hkind, hclass, hobj⟩
  · rintro ⟨a, s, hs, hsub, hkind, hclass, hobj⟩
    refine ⟨s, ⟨⟨topicAbout ss a, ?_, mem_statements_topicAbout.2 ⟨hs, hsub⟩⟩, hkind, hclass⟩,
      hobj⟩
    exact mem_topicsOf.2 ⟨mem_subjects.2 ⟨s, hs, hsub⟩, rfl⟩

/-- The topic of `a` describes a class. -/
def DescribesClass (ss : List Statement) (a : Iri) : Prop :=
  a ∈ (classTopics (topicsOf ss)).map Topic.subject

theorem describesClass_iff : DescribesClass ss a ↔ (∃ s ∈ ss, s.subject = a) ∧
    (Says ss a .type rdfsClass ∨ (∃ b, Says ss a .type b ∧ b.isSchema "DataType" = true) ∨
      (∃ s ∈ ss, s.subject = a ∧ s.kind = .subClassOf) ∨ ∃ b, SaysBelow ss b a) := by
  have hsubject : (topicAbout ss a).subject = a := rfl
  rw [DescribesClass, classTopics, map_subject_filter_topicsOf, List.mem_filter, mem_subjects,
    Bool.or_eq_true, Bool.or_eq_true, Bool.or_eq_true, isClass_topicAbout, isDataType_topicAbout,
    hasSubClassOf_topicAbout, hsubject, List.contains_iff_mem, mem_superclasses, or_assoc, or_assoc]

theorem saysBelow_iff : SaysBelow ss a b ↔ Says ss a .subClassOf b ∧ b ≠ rdfsClass := by
  have htype : ∀ s : Statement, s.object.iri? = some b →
      (s.object.isClassType = false ↔ b ≠ rdfsClass) := by
    intro s hobject
    rw [Term.isClassType, hobject]
    simp
  constructor
  · rintro ⟨s, hs, hsub, hkind, hclass, hobject⟩
    exact ⟨⟨s, hs, hsub, hkind, hobject⟩, (htype s hobject).1 hclass⟩
  · rintro ⟨⟨s, hs, hsub, hkind, hobject⟩, hne⟩
    exact ⟨s, hs, hsub, hkind, (htype s hobject).2 hne, hobject⟩

theorem SaysBelow.describesClass (h : SaysBelow ss a b) : DescribesClass ss a := by
  obtain ⟨s, hs, hsub, hkind, _⟩ := h
  exact describesClass_iff.2 ⟨⟨s, hs, hsub⟩, Or.inr (Or.inr (Or.inl ⟨s, hs, hsub, hkind⟩))⟩

/-! ## Nothing is lost or invented -/

/-- Picking the elements for each key picks, in another order, those that have one of the keys. -/
theorem flatMap_filter_perm {α κ : Type} [DecidableEq κ] (f : α → κ) (xs : List α) (ks : List κ)
    (hks : ks.Nodup) :
    (ks.flatMap fun k => xs.filter fun x => decide (f x = k)).Perm
      (xs.filter fun x => decide (f x ∈ ks)) := by
  induction ks with
  | nil => simp
  | cons k ks ih =>
      obtain ⟨hk, hks⟩ := List.nodup_cons.1 hks
      have hfirst : (xs.filter fun x => decide (f x ∈ k :: ks)).filter (fun x => decide (f x = k)) =
          xs.filter fun x => decide (f x = k) := by
        rw [List.filter_filter]
        refine List.filter_congr fun x _ => ?_
        by_cases hx : f x = k <;> simp [hx]
      have hrest : (xs.filter fun x => decide (f x ∈ k :: ks)).filter
          (fun x => !decide (f x = k)) = xs.filter fun x => decide (f x ∈ ks) := by
        rw [List.filter_filter]
        refine List.filter_congr fun x _ => ?_
        by_cases hx : f x = k <;> simp [hx, hk]
      have hsplit := List.filter_append_perm (fun x => decide (f x = k))
        (xs.filter fun x => decide (f x ∈ k :: ks))
      rw [hfirst, hrest] at hsplit
      rw [List.flatMap_cons]
      exact ((ih hks).append_left _).trans hsplit

/-- The statements of the topics about selected subjects are the statements about them. -/
theorem flatMap_statements_perm (ss : List Statement) (p : Topic → Bool) :
    (((topicsOf ss).filter p).flatMap Topic.statements).Perm
      (ss.filter fun s => p (topicAbout ss s.subject)) := by
  rw [filter_topicsOf, List.flatMap_map]
  refine (flatMap_filter_perm Statement.subject ss _ ((nodup_subjects ss).filter _)).trans ?_
  refine List.Perm.of_eq (List.filter_congr fun s hs => ?_)
  have hmem : s.subject ∈ subjects ss := mem_subjects.2 ⟨s, hs, rfl⟩
  simp [hmem]

end Ontotype

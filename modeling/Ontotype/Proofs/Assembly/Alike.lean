import Ontotype.Proofs.Assembly.Portrait
import Ontotype.Proofs.Graph.Renumbering

set_option autoImplicit false

/-! # Portraits of the same statements

What is said by a list of statements does not depend on their order, or on repetitions, with one
exception: of several comments on one subject the last counts. So two graphs that portray the same
statements are alike as soon as no subject has comments with different texts. They may number
things differently; things of the two graphs correspond if they have one IRI. -/

namespace Ontotype

open Vocabulary

variable {edition : Edition} {ss ss' : List Statement} {g h : Graph} {a b : Iri} {k : Predicate}
  {c c' d d' : ClassId} {p p' : PropertyId} {v v' : ValueId}

/-! ## The same statements -/

/-- No subject has two comments with different texts. -/
def OneText (ss : List Statement) : Prop :=
  ∀ s ∈ ss, ∀ s' ∈ ss, s.subject = s'.subject →
    ∀ text text', s.text? = some text → s'.text? = some text' → text = text'

theorem getLast?_congr {α : Type} {xs ys : List α} (hone : ∀ x ∈ xs, ∀ y ∈ xs, x = y)
    (hmem : ∀ x, x ∈ xs ↔ x ∈ ys) : xs.getLast? = ys.getLast? := by
  cases hx : xs.getLast? with
  | none =>
      rw [List.getLast?_eq_none_iff] at hx
      have hys : ys = [] := by
        refine List.eq_nil_iff_forall_not_mem.2 fun y hy => ?_
        rw [← hmem, hx] at hy
        exact List.not_mem_nil hy
      rw [hys, List.getLast?_nil]
  | some x =>
      have hxs : x ∈ xs := List.mem_of_getLast? hx
      obtain ⟨y, hy⟩ := List.getLast?_isSome.2 (List.ne_nil_of_mem ((hmem x).1 hxs)) |>
        Option.isSome_iff_exists.1
      rw [hy, hone x hxs y ((hmem y).2 (List.mem_of_getLast? hy))]

namespace SameStatements

variable (hss : SameStatements ss ss')

include hss

theorem symm : SameStatements ss' ss := fun s => (hss s).symm

theorem fact_iff : Says ss a k b ↔ Says ss' a k b :=
  exists_congr fun s => and_congr_left fun _ => hss s

theorem below_iff : SaysBelow ss a b ↔ SaysBelow ss' a b :=
  exists_congr fun s => and_congr_left fun _ => hss s

theorem describesClass : DescribesClass ss a ↔ DescribesClass ss' a := by
  have hsubject : ∀ {q : Statement → Prop}, (∃ s ∈ ss, q s) ↔ ∃ s ∈ ss', q s :=
    exists_congr fun s => and_congr_left fun _ => hss s
  rw [describesClass_iff, describesClass_iff, hsubject, hsubject, hss.fact_iff]
  simp only [hss.fact_iff, hss.below_iff]

theorem knownClass : KnownClass edition ss a ↔ KnownClass edition ss' a :=
  or_congr_right hss.describesClass

theorem isValue : IsValue ss a ↔ IsValue ss' a :=
  exists_congr fun _ => and_congr_left fun _ => hss.fact_iff

theorem declaredEntry_eq : declaredEntry edition ss a = declaredEntry edition ss' a := by
  have htype : (topicAbout ss a).isDataType = (topicAbout ss' a).isDataType := by
    rw [Bool.eq_iff_iff, isDataType_topicAbout, isDataType_topicAbout]
    exact exists_congr fun _ => and_congr_left fun _ => hss.fact_iff
  unfold declaredEntry
  rw [htype]

theorem mem_filterMap {α : Type} (f : Statement → Option α) (x : α) :
    x ∈ (topicAbout ss a).statements.filterMap f ↔
      x ∈ (topicAbout ss' a).statements.filterMap f := by
  simp only [List.mem_filterMap, mem_statements_topicAbout]
  exact exists_congr fun s => and_congr_left fun _ => and_congr_left fun _ => hss s

theorem oneText (hone : OneText ss) : OneText ss' :=
  fun s hs s' hs' => hone s ((hss s).2 hs) s' ((hss s').2 hs')

theorem getLast?_texts (hone : OneText ss) (a : Iri) :
    (texts ss a).getLast? = (texts ss' a).getLast? := by
  refine getLast?_congr (fun x hx y hy => ?_) (hss.mem_filterMap Statement.text?)
  obtain ⟨s, hs, hx⟩ := List.mem_filterMap.1 hx
  obtain ⟨s', hs', hy⟩ := List.mem_filterMap.1 hy
  rw [mem_statements_topicAbout] at hs hs'
  exact hone s hs.1 s' hs'.1 (hs.2.trans hs'.2.symm) x y hx hy

theorem getLast?_classTexts (hone : OneText ss) (a : Iri) :
    (classTexts ss a).getLast? = (classTexts ss' a).getLast? := by
  have hiff : a ∈ (classTopics (topicsOf ss)).map Topic.subject ↔
      a ∈ (classTopics (topicsOf ss')).map Topic.subject := hss.describesClass
  simp only [classTexts, hiff]
  split
  · exact hss.getLast?_texts hone a
  · rfl

end SameStatements

/-! ## Corresponding properties and values -/

/-- The property `p` of `g` and the property `p'` of `h` have one IRI. -/
def SameProperty (g h : Graph) (p p' : PropertyId) : Prop :=
  p < g.properties.length ∧ p' < h.properties.length ∧ (g.property p).iri = (h.property p').iri

/-- The enumeration value `v` of `g` and the enumeration value `v'` of `h` have one IRI. -/
def SameValue (g h : Graph) (v v' : ValueId) : Prop :=
  v < g.values.length ∧ v' < h.values.length ∧ (g.value v).iri = (h.value v').iri

theorem SameProperty.symm (hp : SameProperty g h p p') : SameProperty h g p' p :=
  ⟨hp.2.1, hp.1, hp.2.2.symm⟩

/-! ## Graphs that are alike -/

/-- The graphs portray the same statements, in which no subject has comments with different
    texts. -/
structure Alike (edition : Edition) (ss ss' : List Statement) (g h : Graph) : Prop where
  left : Portrays edition ss g
  right : Portrays edition ss' h
  same : SameStatements ss ss'
  oneText : OneText ss

theorem bindingsOf_eq_nil_iff : g.bindingsOf c = [] ↔ ∀ p, ¬ g.Bound c p := by
  rw [Graph.bindingsOf, List.filter_eq_nil_iff]
  constructor
  · rintro hnone p ⟨b, hb, howner, _⟩
    exact hnone b hb (decide_eq_true howner)
  · exact fun hnone b hb howner => hnone b.property ⟨b, hb, of_decide_eq_true howner, rfl⟩

namespace Alike

theorem symm (halike : Alike edition ss ss' g h) : Alike edition ss' ss h g where
  left := halike.right
  right := halike.left
  same := halike.same.symm
  oneText := halike.same.oneText halike.oneText

variable (halike : Alike edition ss ss' g h)

include halike

theorem exists_property_right (hp : p < g.properties.length) : ∃ p', SameProperty g h p p' := by
  have hmem : (g.property p).iri ∈ h.propertyIris := by
    rw [halike.right.mem_propertyIris, ← halike.same.fact_iff, ← halike.left.mem_propertyIris]
    exact Graph.mem_propertyIris.2 ⟨p, hp, rfl⟩
  obtain ⟨p', hp', hiri⟩ := Graph.mem_propertyIris.1 hmem
  exact ⟨p', hp, hp', hiri.symm⟩

theorem exists_value_right (hv : v < g.values.length) : ∃ v', SameValue g h v v' := by
  have hmem : (g.value v).iri ∈ h.valueIris := by
    rw [halike.right.mem_valueIris, ← halike.same.isValue, ← halike.left.mem_valueIris]
    exact Graph.mem_valueIris.2 ⟨v, hv, rfl⟩
  obtain ⟨v', hv', hiri⟩ := Graph.mem_valueIris.1 hmem
  exact ⟨v', hv, hv', hiri.symm⟩

/-! ## Relations -/

theorem bound_iff (hc : SameClass g h c c') (hp : SameProperty g h p p') :
    g.Bound c p ↔ h.Bound c' p' := by
  rw [halike.left.bound c hc.1 p hp.1, halike.right.bound c' hc.2.1 p' hp.2.1, hc.2.2, hp.2.2]
  exact halike.same.fact_iff

theorem exists_bound_right (hc : SameClass g h c c') (hp : g.Bound c p) :
    ∃ p', SameProperty g h p p' ∧ h.Bound c' p' := by
  have hlt : p < g.properties.length := by
    obtain ⟨b, hb, _, rfl⟩ := hp
    exact (halike.left.inRange.binding b hb).2
  obtain ⟨p', hsame⟩ := halike.exists_property_right hlt
  exact ⟨p', hsame, (halike.bound_iff hc hsame).1 hp⟩

theorem bindingsOf_eq_nil_right (hc : SameClass g h c c') (hnil : h.bindingsOf c' = []) :
    g.bindingsOf c = [] := by
  rw [bindingsOf_eq_nil_iff] at hnil ⊢
  intro p hp
  obtain ⟨p', _, hp'⟩ := halike.exists_bound_right hc hp
  exact hnil p' hp'

theorem hierarchy : SameHierarchy g h where
  inRange_left := halike.left.inRange
  inRange_right := halike.right.inRange
  nodup_left := halike.left.nodup_classIris
  nodup_right := halike.right.nodup_classIris
  classes a := by
      rw [halike.left.mem_classIris, halike.right.mem_classIris]
      exact halike.same.knownClass
  kind c c' hc := by
      rw [halike.left.kind c hc.1, halike.right.kind c' hc.2.1, hc.2.2,
        halike.same.declaredEntry_eq]
  bound c c' hc :=
    ⟨halike.symm.bindingsOf_eq_nil_right hc.symm, halike.bindingsOf_eq_nil_right hc⟩
  below c c' d d' hc hd := by
      rw [halike.left.below c hc.1 d hd.1, halike.right.below c' hc.2.1 d' hd.2.1, hc.2.2, hd.2.2]
      exact halike.same.below_iff

theorem successor_iff (hc : SameClass g h c c') (hd : SameClass g h d d') :
    d ∈ g.successors c ↔ d' ∈ h.successors c' := by
  rw [halike.left.successor c hc.1 d hd.1, halike.right.successor c' hc.2.1 d' hd.2.1, hc.2.2,
    hd.2.2, halike.same.describesClass, halike.same.fact_iff]

theorem unionMember_iff (hc : SameClass g h c c') (hd : SameClass g h d d') :
    d ∈ g.unionMembers c ↔ d' ∈ h.unionMembers c' := by
  rw [halike.left.unionMember c hc.1 d hd.1, halike.right.unionMember c' hc.2.1 d' hd.2.1,
    halike.hierarchy.kind c c' hc, halike.hierarchy.kind d d' hd]

theorem range_iff (hp : SameProperty g h p p') (hc : SameClass g h c c') :
    c ∈ (g.property p).ranges ↔ c' ∈ (h.property p').ranges := by
  rw [halike.left.range p hp.1 c hc.1, halike.right.range p' hp.2.1 c' hc.2.1, hp.2.2, hc.2.2]
  exact halike.same.fact_iff

theorem member_iff (hc : SameClass g h c c') (hv : SameValue g h v v') :
    v ∈ g.valuesOf c ↔ v' ∈ h.valuesOf c' := by
  rw [halike.left.member c hc.1 v hv.1, halike.right.member c' hc.2.1 v' hv.2.1, hc.2.2, hv.2.2,
    halike.same.fact_iff]

/-! ## Entries -/

theorem comment_eq (hc : SameClass g h c c') : (g.entry c).comment = (h.entry c').comment := by
  rw [halike.left.comment c hc.1, halike.right.comment c' hc.2.1, hc.2.2,
    halike.same.getLast?_classTexts halike.oneText]

theorem aliases_eq (hc : SameClass g h c c') : (g.entry c).aliases = (h.entry c').aliases := by
  rw [halike.left.aliases c hc.1, halike.right.aliases c' hc.2.1, hc.2.2,
    halike.same.declaredEntry_eq]

theorem marked_iff (hc : SameClass g h c c') :
    (g.entry c).marked = true ↔ (h.entry c').marked = true := by
  rw [halike.left.marked c hc.1, halike.right.marked c' hc.2.1, hc.2.2,
    halike.same.declaredEntry_eq, halike.same.fact_iff]

theorem property_comment_eq (hp : SameProperty g h p p') :
    (g.property p).comment = (h.property p').comment := by
  rw [halike.left.property_comment p hp.1, halike.right.property_comment p' hp.2.1, hp.2.2,
    halike.same.getLast?_texts halike.oneText]

theorem mem_property_successors_iff (hp : SameProperty g h p p') (t : Term) :
    t ∈ (g.property p).successors ↔ t ∈ (h.property p').successors := by
  rw [halike.left.property_successors p hp.1, halike.right.property_successors p' hp.2.1, hp.2.2]
  exact halike.same.mem_filterMap _ t

theorem value_comment_eq (hv : SameValue g h v v') :
    (g.value v).comment = (h.value v').comment := by
  rw [halike.left.value_comment v hv.1, halike.right.value_comment v' hv.2.1, hv.2.2,
    halike.same.getLast?_texts halike.oneText]

end Alike

end Ontotype

import Ontotype.Proofs.Assembly.Alike
import Mathlib.Data.List.Perm.Basic

set_option autoImplicit false

/-! # What is found on the way

Two things are found while an ontology is assembled: statements that nothing has a use for, and
comments that replace earlier ones. Which comment replaces which depends on the order of the
statements, and so does the order in which the findings are made; but a subject with `n` comments
is reported `n - 1` times in any order. So the findings are, up to their order, those that a list of
statements has whatever its order (`findings_of_assemble`). -/

namespace Ontotype

open Vocabulary

/-! ## Repeated elements -/

section Repeats

variable {α β : Type} [DecidableEq α] [DecidableEq β]

/-- The elements of a list that have been seen when they are reached, given what was `seen`
    before. -/
def repeats (seen : List α) : List α → List α
  | [] => []
  | x :: xs => if x ∈ seen then x :: repeats seen xs else repeats (x :: seen) xs

/-- Every element is repeated once less than it occurs, if it was not seen before. -/
theorem count_repeats (xs : List α) (a : α) : ∀ seen : List α,
    (repeats seen xs).count a + (if a ∈ xs ∧ a ∉ seen then 1 else 0) = xs.count a := by
  -- the count of `a` changes where `a` itself is reached, and what is seen changes with it
  induction xs with
  | nil => intro seen; simp [repeats]
  | cons x xs ih =>
      intro seen
      unfold repeats
      split
      · next hx =>
          have hrest := ih seen
          by_cases hax : a = x
          · subst hax
            simp only [hx, not_true_eq_false, and_false, if_false] at hrest ⊢
            rw [List.count_cons_self, List.count_cons_self]
            omega
          · rw [List.count_cons_of_ne (Ne.symm hax), List.count_cons_of_ne (Ne.symm hax), ← hrest]
            simp [hax]
      · next hx =>
          have hrest := ih (x :: seen)
          by_cases hax : a = x
          · subst hax
            simp only [List.mem_cons, true_or, not_true_eq_false, and_false, if_false] at hrest
            rw [List.count_cons_self, ← hrest]
            simp [hx]
          · rw [List.count_cons_of_ne (Ne.symm hax), ← hrest]
            simp [hax]

theorem repeats_perm {xs ys : List α} (h : xs.Perm ys) : (repeats [] xs).Perm (repeats [] ys) := by
  rw [List.perm_iff_count]
  intro a
  have hxs := count_repeats xs a []
  have hys := count_repeats ys a []
  rw [h.count_eq] at hxs
  simp only [h.mem_iff] at hxs
  omega

theorem map_repeats {f : α → β} {P : α → Prop} (hinj : ∀ x y, P x → P y → f x = f y → x = y)
    (xs : List α) : ∀ seen : List α, (∀ x ∈ xs, P x) → (∀ x ∈ seen, P x) →
      (repeats seen xs).map f = repeats (seen.map f) (xs.map f) := by
  induction xs with
  | nil => exact fun seen _ _ => rfl
  | cons x xs ih =>
      intro seen hxs hseen
      obtain ⟨hx, hxs⟩ := List.forall_mem_cons.1 hxs
      have hmem : f x ∈ seen.map f ↔ x ∈ seen := by
        refine ⟨fun hfx => ?_, List.mem_map_of_mem⟩
        obtain ⟨y, hy, hxy⟩ := List.mem_map.1 hfx
        rw [← hinj y x (hseen y hy) hx hxy]
        exact hy
      rw [List.map_cons, repeats, repeats]
      split
      · next hin => rw [if_pos (hmem.2 hin), List.map_cons, ih seen hxs hseen]
      · next hin =>
          rw [if_neg fun h => hin (hmem.1 h),
            ih (x :: seen) hxs (List.forall_mem_cons.2 ⟨hx, hseen⟩), List.map_cons]

end Repeats

/-! ## Findings of a run -/

/-- What an edit comments: the thing with a number in a part of the graph. -/
def Edit.commented? : Edit → Option (Part × Nat)
  | .commentClass c _ => some (.classes, c)
  | .commentProperty p _ => some (.properties, p)
  | .commentValue v _ => some (.values, v)
  | _ => none

/-- The statement that an edit reports. -/
def Edit.reported? : Edit → Option Statement
  | .report s => some s
  | _ => none

namespace Graph

variable {g : Graph} {e : Edit} {es : List Edit}

/-- The comment of a thing. -/
def commentOf (g : Graph) : Part × Nat → Option String
  | (.classes, c) => (g.entry c).comment
  | (.properties, p) => (g.property p).comment
  | (.values, v) => (g.value v).comment

/-- The IRI of a thing. -/
def iriOf (g : Graph) : Part × Nat → Iri
  | (.classes, c) => g.iri c
  | (.properties, p) => (g.property p).iri
  | (.values, v) => (g.value v).iri

/-- The graph has the thing. -/
def Has (g : Graph) : Part × Nat → Prop
  | (.classes, c) => c ∈ g.ids
  | (.properties, p) => p < g.properties.length
  | (.values, v) => v < g.values.length

theorem isSome_commentOf_edit (he : e.Fits g) (x : Part × Nat) :
    ((g.edit e).commentOf x).isSome = true ↔
      (g.commentOf x).isSome = true ∨ e.commented? = some x := by
  have hor : ∀ {α : Type} (a b : Option α),
      (a.or b).isSome = true ↔ b.isSome = true ∨ a.isSome = true := by
    intro α a b
    cases a <;> simp
  obtain ⟨part, n⟩ := x
  cases part with
  | classes =>
      rw [commentOf, commentOf, entry_edit g e he, hor]
      cases e <;> simp [Edit.commented?, Edit.classText?]
  | properties =>
      rw [commentOf, commentOf, (property_edit g e he n).1, hor]
      cases e <;> simp [Edit.commented?, Edit.propertyText?]
  | values =>
      rw [commentOf, commentOf, value_comment_edit g e he, hor]
      cases e <;> simp [Edit.commented?, Edit.valueText?]

theorem has_of_fits (he : e.Fits g) {x : Part × Nat} (hx : e.commented? = some x) : g.Has x := by
  cases e <;> simp only [Edit.commented?, reduceCtorEq, Option.some.injEq] at hx
  all_goals
    subst hx
    exact he

theorem Accepts.iriOf_eq (h : g.Accepts es) {x : Part × Nat} (hx : g.Has x) :
    (g.edits es).iriOf x = g.iriOf x := by
  obtain ⟨part, n⟩ := x
  cases part with
  | classes => exact iri_edits g es n
  | properties =>
      have hlt : n < g.propertyIris.length := by
        unfold propertyIris
        rw [List.length_map]
        exact hx
      show ((g.edits es).property n).iri = (g.property n).iri
      rw [property_iri_eq, property_iri_eq, h.propertyIris_eq, List.getElem?_append_left hlt]
  | values =>
      have hlt : n < g.valueIris.length := by
        unfold valueIris
        rw [List.length_map]
        exact hx
      show ((g.edits es).value n).iri = (g.value n).iri
      rw [value_iri_eq, value_iri_eq, h.valueIris_eq, List.getElem?_append_left hlt]

theorem Accepts.has (h : g.Accepts es) {x : Part × Nat} (hx : g.Has x) : (g.edits es).Has x := by
  obtain ⟨part, n⟩ := x
  cases part with
  | classes =>
      have hc : n ∈ g.ids := hx
      show n ∈ (g.edits es).ids
      rwa [ids_edits]
  | properties =>
      have hlength := h.length_properties
      have hlt : n < g.properties.length := hx
      show n < (g.edits es).properties.length
      omega
  | values =>
      have hlength := h.length_values
      have hlt : n < g.values.length := hx
      show n < (g.edits es).values.length
      omega

end Graph

/-- What is found when an edit is applied. -/
def Edit.findings (g : Graph) (e : Edit) : List Diagnostic :=
  e.reported?.toList.map .unrecognized
    ++ (e.commented?.toList.filter fun x => (g.commentOf x).isSome).map
        fun x => .replacedComment (g.iriOf x)

theorem Build.findings_apply (b : Build) (e : Edit) :
    (b.apply e).findings = b.findings ++ e.findings b.graph := by
  have hcomment : ∀ (x : Part × Nat) (f : Graph → Graph),
      (b.comment (b.graph.commentOf x) (b.graph.iriOf x) f).findings = b.findings
        ++ ([x].filter fun x => (b.graph.commentOf x).isSome).map
            fun x => .replacedComment (b.graph.iriOf x) := by
    intro x f
    rw [Build.comment, List.filter_singleton]
    split
    · next hsome => rw [hsome]; rfl
    · next hnone => rw [Bool.not_eq_true] at hnone; rw [hnone]; exact (List.append_nil _).symm
  have hnothing : b.findings = b.findings ++ [] := (List.append_nil _).symm
  cases e with
  | commentClass c text => exact hcomment (.classes, c) _
  | commentProperty p text => exact hcomment (.properties, p) _
  | commentValue v text => exact hcomment (.values, v) _
  | addRange p c =>
      rw [apply]
      split <;> exact hnothing
  | report s => rfl
  | _ => exact hnothing

theorem Edit.findings_of_not_commented {g : Graph} {e : Edit} (he : e.commented? = none) :
    e.findings g = e.reported?.toList.map .unrecognized := by
  rw [Edit.findings, he]
  exact List.append_nil _

theorem Edit.reported?_of_commented {e : Edit} {x : Part × Nat} (he : e.commented? = some x) :
    e.reported? = none := by
  cases e with
  | report s => exact absurd he (by simp [Edit.commented?])
  | _ => rfl

theorem Edit.findings_of_commented {g : Graph} {e : Edit} {x : Part × Nat}
    (he : e.commented? = some x) : e.findings g =
      if (g.commentOf x).isSome then [.replacedComment (g.iriOf x)] else [] := by
  rw [Edit.findings, he, Edit.reported?_of_commented he]
  cases hsome : (g.commentOf x).isSome <;> simp [hsome]

/-- The findings of an accepted run: the statements that are reported, and one finding for every
    comment on what has one. -/
theorem Build.findings_foldl (es : List Edit) : ∀ (b : Build) (seen : List (Part × Nat)),
    b.graph.Accepts es → (∀ x, (b.graph.commentOf x).isSome = true ↔ x ∈ seen) →
      (es.foldl Build.apply b).findings.Perm (b.findings
        ++ ((es.filterMap Edit.reported?).map .unrecognized
          ++ (repeats seen (es.filterMap Edit.commented?)).map
              fun x => .replacedComment ((b.graph.edits es).iriOf x))) := by
  induction es with
  | nil => exact fun b seen _ _ => List.Perm.of_eq (List.append_nil _).symm
  | cons e es ih =>
      intro b seen haccepts hseen
      have hfits := haccepts.1
      have hrest := haccepts.2
      have hsome := fun x => Graph.isSome_commentOf_edit hfits x
      simp only [hseen, ← Build.graph_apply] at hsome hrest
      rw [List.foldl_cons, Graph.edits_cons, ← Build.graph_apply, List.filterMap_cons,
        List.filterMap_cons]
      cases hcommented : e.commented? with
      | none =>
          simp only [hcommented, reduceCtorEq, or_false] at hsome
          refine (ih (b.apply e) seen hrest hsome).trans (List.Perm.of_eq ?_)
          rw [Build.findings_apply, Edit.findings_of_not_commented hcommented]
          cases e.reported? <;> simp
      | some x =>
          -- the name that the finding shows is not changed by later edits
          have hiri : ((b.apply e).graph.edits es).iriOf x = b.graph.iriOf x := by
            rw [Build.graph_apply, ← Graph.edits_cons]
            exact haccepts.iriOf_eq (Graph.has_of_fits hfits hcommented)
          have hfindings := Edit.findings_of_commented (g := b.graph) hcommented
          simp only [hcommented, Option.some.injEq] at hsome
          rw [Edit.reported?_of_commented hcommented]
          dsimp only
          rw [repeats]
          split
          · next hx =>
              -- the thing has a comment, so that it has one afterwards is no news
              have hsome' : ∀ y, ((b.apply e).graph.commentOf y).isSome = true ↔ y ∈ seen :=
                fun y => (hsome y).trans ⟨fun hy => hy.elim id fun heq => heq ▸ hx, Or.inl⟩
              refine (ih (b.apply e) seen hrest hsome').trans ?_
              rw [Build.findings_apply, hfindings, if_pos ((hseen x).2 hx), List.map_cons, hiri,
                List.append_assoc, List.singleton_append]
              exact List.Perm.append_left _ List.perm_middle.symm
          · next hx =>
              have hsome' : ∀ y, ((b.apply e).graph.commentOf y).isSome = true ↔ y ∈ x :: seen := by
                intro y
                rw [hsome, List.mem_cons, or_comm, eq_comm]
              refine (ih (b.apply e) (x :: seen) hrest hsome').trans (List.Perm.of_eq ?_)
              rw [Build.findings_apply, hfindings, if_neg fun h => hx ((hseen x).1 h),
                List.append_nil]

/-! ## Findings of the stages -/

/-- The topics that a stage reads. -/
def Part.topics (topics : List Topic) : Part → List Topic
  | .classes => classTopics topics
  | .properties => topics.filter Topic.isProperty
  | .values => topics.filter Topic.hasEnumType

/-- The statements that a stage reads. -/
def Part.statements (part : Part) (ss : List Statement) : List Statement :=
  (part.topics (topicsOf ss)).flatMap Topic.statements

/-- The subject describes a class or a property. -/
def describedElsewhere (ss : List Statement) (a : Iri) : Bool :=
  ((declaredGraph (topicsOf ss)).find? a).isSome || (topicAbout ss a).isProperty

/-- A stage has no use for the statement, and reports it. -/
def Part.reports (part : Part) (ss : List Statement) (s : Statement) : Bool :=
  match part with
  | .classes => s.uselessForClass
  | .properties => s.uselessForProperty
  | .values => s.uselessForValue && !describedElsewhere ss s.subject

/-- What the statement comments, if it does. -/
def Part.commented? (part : Part) (s : Statement) : Option (Part × Iri) :=
  s.text?.map fun _ => (part, s.subject)

section

variable {edition : Edition} {ss : List Statement} {D g : Graph} {s : Statement} {c : ClassId}
  {α : Type}

theorem reported?_readClassStatement (hc : g.find? s.subject = some c) :
    (readClassStatement g s).edits.filterMap Edit.reported? =
      (if s.uselessForClass then some s else none).toList := by
  rw [edits_readClassStatement hc]
  cases s.uselessForClass <;>
    simp [apply_ite (List.filterMap Edit.reported?), List.filterMap_map, Function.comp_def,
      Edit.reported?]

theorem commented?_readClassStatement (hc : g.find? s.subject = some c) :
    (readClassStatement g s).edits.filterMap Edit.commented? =
      (s.text?.map fun _ => (Part.classes, c)).toList := by
  rw [edits_readClassStatement hc]
  cases s.text? <;>
    simp [apply_ite (List.filterMap Edit.commented?), List.filterMap_map, Function.comp_def,
      Edit.commented?]

theorem reported?_readPropertyStatement (g : Graph) (p : PropertyId) (s : Statement) :
    (readPropertyStatement g p s).edits.filterMap Edit.reported? =
      (if s.uselessForProperty then some s else none).toList := by
  rw [edits_readPropertyStatement]
  cases s.uselessForProperty <;>
    simp [apply_ite (List.filterMap Edit.reported?), List.filterMap_map, Function.comp_def,
      Edit.reported?]

theorem commented?_readPropertyStatement (g : Graph) (p : PropertyId) (s : Statement) :
    (readPropertyStatement g p s).edits.filterMap Edit.commented? =
      (s.text?.map fun _ => (Part.properties, p)).toList := by
  rw [edits_readPropertyStatement]
  cases s.text? <;>
    simp [apply_ite (List.filterMap Edit.commented?), List.filterMap_map, Function.comp_def,
      Edit.commented?]

theorem reported?_readValueStatement (v : ValueId) (elsewhere : Bool) (s : Statement) :
    (readValueStatement v elsewhere s).edits.filterMap Edit.reported? =
      (if s.uselessForValue && !elsewhere then some s else none).toList := by
  rw [edits_readValueStatement]
  cases s.uselessForValue && !elsewhere <;>
    simp [List.filterMap_map, Function.comp_def, Edit.reported?]

theorem commented?_readValueStatement (v : ValueId) (elsewhere : Bool) (s : Statement) :
    (readValueStatement v elsewhere s).edits.filterMap Edit.commented? =
      (s.text?.map fun _ => (Part.values, v)).toList := by
  rw [edits_readValueStatement]
  cases s.text? <;>
    simp [apply_ite (List.filterMap Edit.commented?), Edit.commented?]

/-! ### Stage by stage -/

theorem filterMap_flatMap_statements (ts : List Topic) (want : Statement → Option α) :
    (ts.flatMap Topic.statements).filterMap want =
      ts.flatMap fun t => t.statements.filterMap want := by
  rw [List.filterMap_flatMap]

theorem filterMap_classes {f : Edit → Option α} {want : Statement → Option α}
    (h : ∀ s c, D.find? s.subject = some c →
      (readClassStatement D s).edits.filterMap f = (want s).toList)
    (hD : ∀ a, DescribesClass ss a → (D.find? a).isSome = true) :
    (stageEdits D (topicsOf ss) .classes).filterMap f =
      (Part.classes.statements ss).filterMap want := by
  rw [stageEdits_classes, Part.statements, filterMap_flatMap_statements, List.filterMap_flatMap]
  refine List.flatMap_congr fun t ht => filterMap_flatMap_edits fun s hs => ?_
  obtain ⟨c, hc⟩ :=
    Option.isSome_iff_exists.1 (hD s.subject (exists_classTopic_iff.1 ⟨t, ht, hs⟩).2)
  exact h s c hc

theorem topic_of_mem_zipIdx {p : Topic → Bool} {x : Topic × Nat}
    (hx : x ∈ ((topicsOf ss).filter p).zipIdx) (hs : s ∈ x.1.statements) :
    x.1 = topicAbout ss s.subject := by
  have ht := (mem_topicsOf.1 (List.mem_of_mem_filter (List.fst_mem_of_mem_zipIdx hx))).2
  rw [ht, mem_statements_topicAbout] at hs
  rw [hs.2]
  exact ht

theorem subject_eq_of_mem_zipIdx {p : Topic → Bool} {iris : List Iri} {x : Topic × Nat}
    (hiris : iris = ((topicsOf ss).filter p).map Topic.subject)
    (hx : x ∈ ((topicsOf ss).filter p).zipIdx) (hs : s ∈ x.1.statements) :
    (iris[x.2]?).getD default = s.subject := by
  rw [hiris, List.getElem?_map, List.mem_zipIdx_iff_getElem?.1 hx, topic_of_mem_zipIdx hx hs]
  rfl

theorem Declares.filterMap_properties (hD : Declares edition ss D) {f : Edit → Option α}
    {want : Statement → Option α} (hnew : ∀ a, f (.addProperty a) = none)
    (h : ∀ s p, (D.edits (allEdits D (topicsOf ss))).iriOf (.properties, p) = s.subject →
      (readPropertyStatement D p s).edits.filterMap f = (want s).toList) :
    (stageEdits D (topicsOf ss) .properties).filterMap f =
      (Part.properties.statements ss).filterMap want := by
  rw [stageEdits_properties hD.properties_eq, Part.statements, filterMap_flatMap_statements,
    List.filterMap_flatMap]
  refine Eq.trans ?_ (flatMap_fst_zipIdx (fun t : Topic => t.statements.filterMap want) _)
  refine List.flatMap_congr fun x hx => ?_
  rw [filterMap_propertyEdits hnew]
  refine filterMap_flatMap_edits fun s hs => h s x.2 ?_
  rw [← subject_eq_of_mem_zipIdx hD.propertyIris_eq hx hs, ← Graph.property_iri_eq]
  rfl

theorem Declares.filterMap_values (hD : Declares edition ss D) {f : Edit → Option α}
    {want : Statement → Option α} (hnew : ∀ a, f (.addValue a) = none)
    (hmember : ∀ c v, f (.addMember c v) = none)
    (h : ∀ s v, (D.edits (allEdits D (topicsOf ss))).iriOf (.values, v) = s.subject →
      (readValueStatement v ((D.find? s.subject).isSome
        || (topicAbout ss s.subject).isProperty) s).edits.filterMap f = (want s).toList) :
    (stageEdits D (topicsOf ss) .values).filterMap f =
      (Part.values.statements ss).filterMap want := by
  rw [stageEdits_values hD.values_eq, Part.statements, filterMap_flatMap_statements,
    List.filterMap_flatMap]
  refine Eq.trans ?_ (flatMap_fst_zipIdx (fun t : Topic => t.statements.filterMap want) _)
  refine List.flatMap_congr fun x hx => ?_
  rw [filterMap_valueEdits hnew hmember]
  refine filterMap_flatMap_edits fun s hs => ?_
  have hiri := subject_eq_of_mem_zipIdx hD.valueIris_eq hx hs
  rw [← Graph.value_iri_eq] at hiri
  rw [topic_of_mem_zipIdx hx hs]
  exact h s x.2 hiri

/-! ### Reports and comments -/

theorem filterMap_some_if {β : Type} (p : β → Bool) (xs : List β) :
    xs.filterMap (fun x => if p x then some x else none) = xs.filter p := by
  rw [← List.filterMap_eq_filter]
  rfl

/-- A stage reports the statements that it has no use for. -/
theorem reported_stageEdits (hdeclared : D = declaredGraph (topicsOf ss)) (part : Part) :
    (stageEdits D (topicsOf ss) part).filterMap Edit.reported? =
      (part.statements ss).filter (part.reports ss) := by
  have hD : Declares (editionOf (topicsOf ss)) ss D := hdeclared ▸ declares_declaredGraph ss
  rw [← filterMap_some_if]
  cases part with
  | classes =>
      refine filterMap_classes (fun s c hc => reported?_readClassStatement hc) fun a ha => ?_
      rw [Graph.isSome_find?_iff, hdeclared, mem_classIris_declaredGraph]
      exact Or.inr ha
  | properties =>
      exact hD.filterMap_properties (fun _ => rfl) fun s p _ =>
        reported?_readPropertyStatement D p s
  | values =>
      refine hD.filterMap_values (fun _ => rfl) (fun _ _ => rfl) fun s v _ => ?_
      rw [hdeclared]
      exact reported?_readValueStatement v (describedElsewhere ss s.subject) s

/-- A stage takes comments for what their subjects describe. -/
theorem commented_stageEdits (hdeclared : D = declaredGraph (topicsOf ss)) (part : Part) :
    (stageEdits D (topicsOf ss) part).filterMap (fun e =>
        e.commented?.map fun x => (x.1, (D.edits (allEdits D (topicsOf ss))).iriOf x)) =
      (part.statements ss).filterMap part.commented? := by
  have hD : Declares (editionOf (topicsOf ss)) ss D := hdeclared ▸ declares_declaredGraph ss
  cases part with
  | classes =>
      refine filterMap_classes (fun s c hc => ?_) fun a ha => ?_
      · have hiri : (D.edits (allEdits D (topicsOf ss))).iriOf (.classes, c) = s.subject :=
          (Graph.iri_edits D _ c).trans (Graph.iri_of_find? hc)
        rw [← List.map_filterMap, commented?_readClassStatement hc, Part.commented?, ← hiri]
        cases s.text? <;> rfl
      · rw [Graph.isSome_find?_iff, hdeclared, mem_classIris_declaredGraph]
        exact Or.inr ha
  | properties =>
      refine hD.filterMap_properties (fun _ => rfl) fun s p hp => ?_
      rw [← List.map_filterMap, commented?_readPropertyStatement, Part.commented?, ← hp]
      cases s.text? <;> rfl
  | values =>
      refine hD.filterMap_values (fun _ => rfl) (fun _ _ => rfl) fun s v hv => ?_
      rw [← List.map_filterMap, commented?_readValueStatement, Part.commented?, ← hv]
      cases s.text? <;> rfl

/-- The three parts, in the order of their stages. -/
def Part.all : List Part := [.classes, .properties, .values]

theorem allEdits_eq (g : Graph) (topics : List Topic) :
    allEdits g topics = Part.all.flatMap (stageEdits g topics) := by
  unfold allEdits Part.all
  simp

/-- The findings that a list of statements has, whatever its order. -/
def findingsOf (ss : List Statement) : List Diagnostic :=
  (Part.all.flatMap fun part => (part.statements ss).filter (part.reports ss)).map .unrecognized
    ++ (repeats [] (Part.all.flatMap fun part =>
        (part.statements ss).filterMap part.commented?)).map fun x => .replacedComment x.2

/-- Nothing has a comment from the start. -/
theorem Declares.commentOf_eq (hD : Declares edition ss D) (x : Part × Nat) :
    D.commentOf x = none := by
  obtain ⟨part, n⟩ := x
  cases part with
  | classes =>
      show (D.entry n).comment = none
      by_cases hn : n ∈ D.ids
      · rw [hD.entry_eq hn, comment_declaredEntry]
      · rw [Graph.mem_ids, Graph.size, Nat.not_lt] at hn
        rw [Graph.entry, List.getElem?_eq_none hn]
        rfl
  | properties =>
      show (D.property n).comment = none
      rw [Graph.property, hD.properties_eq]
      rfl
  | values =>
      show (D.value n).comment = none
      rw [Graph.value, hD.values_eq]
      rfl

/-- Everything that a run comments is in the graph that it leads to. -/
theorem has_of_mem_commented {es : List Edit} (h : g.Accepts es) {x : Part × Nat}
    (hx : x ∈ es.filterMap Edit.commented?) : (g.edits es).Has x := by
  obtain ⟨e, he, hcommented⟩ := List.mem_filterMap.1 hx
  obtain ⟨before, after, rfl⟩ := List.append_of_mem he
  obtain ⟨_, hafter⟩ := (Graph.accepts_append _ _ g).1 h
  rw [Graph.edits_append]
  exact hafter.has (Graph.has_of_fits hafter.1 hcommented)

/-- Things of one part are told apart by their IRIs. -/
theorem Portrays.eq_of_iriOf (hg : Portrays edition ss g) {x y : Part × Nat} (hx : g.Has x)
    (hy : g.Has y) (hxy : (x.1, g.iriOf x) = (y.1, g.iriOf y)) : x = y := by
  obtain ⟨part, n⟩ := x
  obtain ⟨part', m⟩ := y
  obtain ⟨rfl, hiri⟩ := Prod.mk.injEq .. ▸ hxy
  cases part with
  | classes => rw [Graph.eq_of_iri_eq hg.nodup_classIris hx hy hiri]
  | properties => rw [Graph.eq_of_property_iri_eq hg.nodup_propertyIris hx hy hiri]
  | values => rw [Graph.eq_of_value_iri_eq hg.nodup_valueIris hx hy hiri]

/-- **The findings of an assembly are those of its statements,** up to their order. -/
theorem findings_of_assemble {b : Build} (h : assemble (topicsOf ss) = .ok b) :
    b.findings.Perm (findingsOf ss) := by
  obtain ⟨_, _, rfl⟩ := (assemble_eq_ok_iff rfl).1 h
  have hD := declares_declaredGraph ss
  have haccepts := hD.accepts (topicsOf ss)
  have hfold := Build.findings_foldl (allEdits (declaredGraph (topicsOf ss)) (topicsOf ss))
    { graph := declaredGraph (topicsOf ss), findings := [] } [] haccepts
    fun x => by simp [hD.commentOf_eq]
  refine hfold.trans (List.Perm.of_eq ?_)
  have hreported : (allEdits (declaredGraph (topicsOf ss)) (topicsOf ss)).filterMap
      Edit.reported? =
        Part.all.flatMap fun part => (part.statements ss).filter (part.reports ss) := by
    rw [allEdits_eq, List.filterMap_flatMap]
    exact List.flatMap_congr fun part _ => reported_stageEdits rfl part
  have hcommented : (allEdits (declaredGraph (topicsOf ss)) (topicsOf ss)).filterMap
      (fun e => e.commented?.map fun x => (x.1, (assembledGraph ss).iriOf x)) =
        Part.all.flatMap fun part => (part.statements ss).filterMap part.commented? := by
    rw [allEdits_eq, List.filterMap_flatMap]
    exact List.flatMap_congr fun part _ => commented_stageEdits rfl part
  -- in the graph that is assembled, a thing is known by its part and its IRI
  have hnames := map_repeats (f := fun x => (x.1, (assembledGraph ss).iriOf x))
    (fun x y hx hy => (portrays_assembledGraph ss).eq_of_iriOf hx hy) _ []
    (fun x hx => has_of_mem_commented haccepts hx) fun _ hx => absurd hx List.not_mem_nil
  rw [List.map_filterMap, List.map_nil, hcommented] at hnames
  rw [findingsOf, hreported, ← hnames, List.map_map]
  rfl

/-! ## Findings of permuted statements -/

theorem flatMap_statements_perm_of_perm {ss' : List Statement} {p p' : Topic → Bool}
    (hp : ∀ a, p (topicAbout ss a) = p' (topicAbout ss' a)) (hperm : ss.Perm ss') :
    (((topicsOf ss).filter p).flatMap Topic.statements).Perm
      (((topicsOf ss').filter p').flatMap Topic.statements) := by
  refine (flatMap_statements_perm ss p).trans (List.Perm.trans ?_
    (flatMap_statements_perm ss' p').symm)
  simp only [hp]
  exact hperm.filter _

theorem Part.statements_perm {ss' : List Statement} (part : Part) (hperm : ss.Perm ss') :
    (part.statements ss).Perm (part.statements ss') := by
  have hss : SameStatements ss ss' := fun s => hperm.mem_iff
  cases part with
  | classes =>
      refine flatMap_statements_perm_of_perm (fun a => ?_) hperm
      have habove : a ∈ superclasses (topicsOf ss) ↔ a ∈ superclasses (topicsOf ss') := by
        rw [mem_superclasses, mem_superclasses]
        exact exists_congr fun b => hss.below_iff
      have hsubclass : (∃ s ∈ ss, s.subject = a ∧ s.kind = .subClassOf) ↔
          ∃ s ∈ ss', s.subject = a ∧ s.kind = .subClassOf :=
        exists_congr fun s => and_congr_left fun _ => hss s
      have hsubject : ∀ ss, (topicAbout ss a).subject = a := fun _ => rfl
      rw [Bool.eq_iff_iff]
      simp only [Bool.or_eq_true, isClass_topicAbout, isDataType_topicAbout,
        hasSubClassOf_topicAbout, List.contains_iff_mem, hsubject, hss.fact_iff, hsubclass, habove]
  | properties =>
      refine flatMap_statements_perm_of_perm (fun a => ?_) hperm
      rw [Bool.eq_iff_iff, isProperty_topicAbout, isProperty_topicAbout, hss.fact_iff]
  | values =>
      refine flatMap_statements_perm_of_perm (fun a => ?_) hperm
      rw [Bool.eq_iff_iff, hasEnumType_topicAbout, hasEnumType_topicAbout]
      exact hss.isValue

theorem SameStatements.describedElsewhere_eq {ss' : List Statement} (hss : SameStatements ss ss')
    (hedition : editionOf (topicsOf ss) = editionOf (topicsOf ss')) (a : Iri) :
    describedElsewhere ss a = describedElsewhere ss' a := by
  rw [Bool.eq_iff_iff, describedElsewhere, describedElsewhere, Bool.or_eq_true, Bool.or_eq_true,
    Graph.isSome_find?_iff, Graph.isSome_find?_iff, mem_classIris_declaredGraph,
    mem_classIris_declaredGraph, isProperty_topicAbout, isProperty_topicAbout, hedition,
    hss.knownClass, hss.fact_iff]

theorem findingsOf_perm {ss' : List Statement} (hperm : ss.Perm ss')
    (hedition : editionOf (topicsOf ss) = editionOf (topicsOf ss')) :
    (findingsOf ss).Perm (findingsOf ss') := by
  have hss : SameStatements ss ss' := fun s => hperm.mem_iff
  have hreports : ∀ part : Part, part.reports ss = part.reports ss' := by
    intro part
    funext s
    cases part with
    | values =>
        unfold Part.reports
        rw [hss.describedElsewhere_eq hedition]
    | _ => rfl
  refine List.Perm.append (List.Perm.map _ ?_) (List.Perm.map _ (repeats_perm ?_))
  · refine List.Perm.flatMap_left _ fun part _ => ?_
    rw [hreports]
    exact (part.statements_perm hperm).filter _
  · exact List.Perm.flatMap_left _ fun part _ => (part.statements_perm hperm).filterMap _

end

end Ontotype

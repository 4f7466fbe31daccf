import Ontotype.Proofs.Compile
import Ontotype.Proofs.Graph.Growth

set_option autoImplicit false

/-! # Two more statements make one more class

The statements that a new IRI is a class, and that it is below a class of the ontology, come at the
end of the topics and of the class topics. So they declare the last of all classes, no statement
before them is read in another way, and the graph that is assembled is the one from before, grown
by a class. -/

namespace Ontotype

open Vocabulary

variable {ss : List Statement} {ts : List Topic} {g : Graph} {e : ClassEntry} {c : ClassId}
  {C D a : Iri} {s : Statement}

/-! ## Topics -/

/-- The statements that make `D` a class, and put it below `C`. -/
def newLeaf (D C : Iri) : List Statement :=
  [{ subject := D, predicate := rdfType, object := .entity rdfsClass },
   { subject := D, predicate := rdfsSubClassOf, object := .entity C }]

/-- The topic of a new class. -/
def leafTopic (D C : Iri) : Topic := { subject := D, statements := newLeaf D C }

theorem topicsOf_append_newLeaf (hD : ∀ s ∈ ss, s.subject ≠ D) (C : Iri) :
    topicsOf (ss ++ newLeaf D C) = topicsOf ss ++ [leafTopic D C] := by
  have hsubjects : subjects (ss ++ newLeaf D C) = subjects ss ++ [D] := by
    have hnew : D ∉ ss.map Statement.subject := fun h => by
      obtain ⟨s, hs, heq⟩ := List.mem_map.1 h
      exact hD s hs heq
    have hmap : (ss ++ newLeaf D C).map Statement.subject =
        (ss.map Statement.subject ++ [D]) ++ [D] := by
      rw [List.map_append, List.append_assoc]
      rfl
    rw [subjects, hmap, eraseDups_concat_of_mem (List.mem_append_right _ List.mem_cons_self),
      eraseDups_concat_of_not_mem hnew, subjects]
  have hold : ∀ a ∈ subjects ss, topicAbout (ss ++ newLeaf D C) a = topicAbout ss a := by
    intro a ha
    obtain ⟨s, hs, rfl⟩ := mem_subjects.1 ha
    simp [topicAbout, newLeaf, (hD s hs).symm]
  have hnew : topicAbout (ss ++ newLeaf D C) D = leafTopic D C := by
    have hnone : ss.filter (·.subject = D) = [] :=
      List.filter_eq_nil_iff.2 fun s hs => by simpa using hD s hs
    rw [topicAbout, List.filter_append, hnone]
    simp [newLeaf, leafTopic]
  rw [topicsOf_eq_map, hsubjects, List.map_append, List.map_congr_left hold, List.map_singleton,
    hnew, topicsOf_eq_map]

/-- What a class is not: a property, a data type, or a value of an enumeration. -/
theorem declaredTypes_leafTopic (D C : Iri) : (leafTopic D C).declaredTypes = [rdfsClass] := by
  have hfirst : Predicate.ofIri rdfType = .type := by decide +kernel
  have hsecond : Predicate.ofIri rdfsSubClassOf = .subClassOf := by decide +kernel
  simp [Topic.declaredTypes, leafTopic, newLeaf, Statement.declaredType?, Statement.kind, hfirst,
    hsecond, Term.iri?, List.eraseDups_cons]

theorem isClassType_entity (hC : C ≠ rdfsClass) : (Term.entity C).isClassType = false := by
  simpa [Term.isClassType, Term.iri?] using hC

theorem superclasses_append_leafTopic (ts : List Topic) (D : Iri) (hC : C ≠ rdfsClass) :
    superclasses (ts ++ [leafTopic D C]) = superclasses ts ++ [C] := by
  have hfirst : Predicate.ofIri rdfType = .type := by decide +kernel
  have hsecond : Predicate.ofIri rdfsSubClassOf = .subClassOf := by decide +kernel
  simp [superclasses, leafTopic, newLeaf, Statement.kind, hfirst, hsecond, isClassType_entity hC,
    Term.iri?]

/-- The new topic is the last of those that describe classes, as long as it does not make a class
    of a topic that described none. -/
theorem classTopics_append_leafTopic (D : Iri) (hC : C ≠ rdfsClass)
    (hplace : DescribesClass ss C ∨ ∀ s ∈ ss, s.subject ≠ C) :
    classTopics (topicsOf ss ++ [leafTopic D C]) =
      classTopics (topicsOf ss) ++ [leafTopic D C] := by
  have hclass : (leafTopic D C).isClass = true := by
    rw [Topic.isClass, declaredTypes_leafTopic]
    simp
  rw [classTopics, superclasses_append_leafTopic _ _ hC, List.filter_append,
    List.filter_cons_of_pos (by simp [hclass]), List.filter_nil, classTopics]
  refine congrArg (· ++ [leafTopic D C]) (List.filter_congr fun t ht => ?_)
  by_cases hsubject : t.subject = C
  · -- the topic of the superclass describes a class already
    have hdescribes : DescribesClass ss C := hplace.resolve_right fun h => by
      obtain ⟨s, hs, heq⟩ := mem_subjects.1 (mem_topicsOf.1 ht).1
      exact h s hs (heq.trans hsubject)
    obtain ⟨t', ht', heq⟩ := List.mem_map.1 hdescribes
    have hsame : t = t' := by
      rw [(mem_topicsOf.1 ht).2, hsubject, ← heq, ← mem_classTopics ht']
    have htrue := List.of_mem_filter (hsame ▸ ht')
    rw [htrue]
    simp [hsubject]
  · simp [hsubject]

/-! ## Reading -/

namespace Graph

theorem find?_declare_of_ne (g : Graph) (h : a ≠ e.iri) : (g.declare e).find? a = g.find? a := by
  rw [find?_eq, find?_eq, classIris_declare, List.findIdx?_append]
  simp [h.symm]

theorem find?_declare_self (h : g.find? e.iri = none) :
    (g.declare e).find? e.iri = some g.size := by
  rw [find?_eq] at h
  rw [find?_eq, classIris_declare, List.findIdx?_append, h, size_eq]
  simp

/-- A class that is found is found in the graph with one more class. -/
theorem find?_declare_of_some (hnew : g.find? e.iri = none) (h : g.find? a = some c) :
    (g.declare e).find? a = some c := by
  rw [find?_declare_of_ne g fun heq => ?_, h]
  rw [heq, hnew] at h
  exact absurd h (by simp)

end Graph

section

variable (hnew : g.find? e.iri = none)

include hnew

/-- What names a class names the same class in the graph with one more class. -/
theorem resolve_declare {α : Type} {f : ClassId → α} {x : α}
    (hok : (g.resolve s).map f = .ok x) : (g.declare e).resolve s = g.resolve s := by
  unfold Graph.resolve at hok ⊢
  cases hiri : s.object.iri? with
  | none => rfl
  | some a =>
      simp only [hiri] at hok ⊢
      cases hfind : g.find? a with
      | none => simp [hfind, Except.map] at hok
      | some c => rw [Graph.find?_declare_of_some hnew hfind]

theorem readClassStatement_declare (hs : s.subject ≠ e.iri) (hok : (readClassStatement g s).Ok) :
    readClassStatement (g.declare e) s = readClassStatement g s := by
  obtain ⟨es, hes⟩ := hok
  unfold readClassStatement at hes ⊢
  rw [Graph.find?_declare_of_ne g hs]
  cases hfind : g.find? s.subject with
  | none => rfl
  | some c =>
      simp only [hfind] at hes ⊢
      cases hkind : s.kind <;> simp only [hkind] at hes ⊢
      case subClassOf =>
        split
        · rfl
        · next hclass =>
            rw [if_neg hclass] at hes
            rw [resolve_declare hnew hes]
      case supersededBy => rw [resolve_declare hnew hes]

theorem readPropertyStatement_declare {p : PropertyId} (hok : (readPropertyStatement g p s).Ok) :
    readPropertyStatement (g.declare e) p s = readPropertyStatement g p s := by
  obtain ⟨es, hes⟩ := hok
  unfold readPropertyStatement at hes ⊢
  cases hkind : s.kind <;> simp only [hkind] at hes ⊢
  case rangeIncludes => rw [resolve_declare hnew hes]
  case domainIncludes => rw [resolve_declare hnew hes]

theorem readValueType_declare {v : ValueId} {subject : Iri}
    (hok : (readValueType g v subject a).Ok) :
    readValueType (g.declare e) v subject a = readValueType g v subject a := by
  obtain ⟨es, hes⟩ := hok
  unfold readValueType at hes ⊢
  cases hfind : g.find? a with
  | none => simp [hfind] at hes
  | some c => rw [Graph.find?_declare_of_some hnew hfind]

end

/-! ## The stages -/

/-- Room for the class `D` below `C`, which is the class number `c` of the graph: nothing is said of
    `D`, the graph has no such class, and to be a superclass is nothing new for the topic of `C`. -/
structure Room (ss : List Statement) (g : Graph) (D C : Iri) (c : ClassId) : Prop where
  unsaid : ∀ s ∈ ss, s.subject ≠ D
  new : g.find? D = none
  superclass : g.find? C = some c
  ne_class : C ≠ rdfsClass
  place : DescribesClass ss C ∨ ∀ s ∈ ss, s.subject ≠ C

namespace Room

variable (h : Room ss g D C c)

include h

theorem ne_of_mem_topics {t : Topic} (ht : t ∈ topicsOf ss) : t.subject ≠ D := by
  obtain ⟨s, hs, heq⟩ := mem_subjects.1 (mem_topicsOf.1 ht).1
  exact heq ▸ h.unsaid s hs

theorem ne_of_mem_statements {t : Topic} (ht : t ∈ topicsOf ss) (hs : s ∈ t.statements) :
    s.subject ≠ D := by
  rw [(mem_topicsOf.1 ht).2, mem_statements_topicAbout] at hs
  exact h.unsaid s hs.1

theorem topics_eq : topicsOf (ss ++ newLeaf D C) = topicsOf ss ++ [leafTopic D C] :=
  topicsOf_append_newLeaf h.unsaid C

theorem readClasses_eq (he : e.iri = D) (hok : ∀ r ∈ readClasses g (topicsOf ss), r.Ok) :
    readClasses (g.declare e) (topicsOf ss ++ [leafTopic D C]) =
      readClasses g (topicsOf ss) ++ [.ok [.mark g.size], .ok [.addParent g.size c]] := by
  subst he
  have hleaf : (leafTopic e.iri C).statements.map (readClassStatement (g.declare e)) =
      [.ok [.mark g.size], .ok [.addParent g.size c]] := by
    have hfirst : Predicate.ofIri rdfType = .type := by decide +kernel
    have hsecond : Predicate.ofIri rdfsSubClassOf = .subClassOf := by decide +kernel
    have hclass : (Term.entity rdfsClass).isClassType = true := by decide +kernel
    simp [leafTopic, newLeaf, readClassStatement, Graph.find?_declare_self h.new, Statement.kind,
      hfirst, hsecond, hclass, isClassType_entity h.ne_class, Graph.resolve, Term.iri?,
      Graph.find?_declare_of_some h.new h.superclass, Except.map]
  unfold readClasses at hok ⊢
  rw [classTopics_append_leafTopic e.iri h.ne_class h.place, List.flatMap_append,
    List.flatMap_singleton, hleaf]
  refine congrArg (· ++ _) (List.flatMap_congr fun t ht => List.map_congr_left fun s hs => ?_)
  exact readClassStatement_declare h.new (h.ne_of_mem_statements (List.mem_of_mem_filter ht) hs)
    (hok _ (List.mem_flatMap.2 ⟨t, ht, List.mem_map_of_mem hs⟩))

theorem readProperties_eq (he : e.iri = D)
    (hok : ∀ r ∈ readProperties g (topicsOf ss), r.Ok) :
    readProperties (g.declare e) (topicsOf ss ++ [leafTopic D C]) =
      readProperties g (topicsOf ss) := by
  subst he
  have hleaf : (leafTopic e.iri C).isProperty = false := by
    rw [Topic.isProperty, declaredTypes_leafTopic]
    decide +kernel
  unfold readProperties at hok ⊢
  rw [List.filter_append, List.filter_cons_of_neg (by simp [hleaf]), List.filter_nil,
    List.append_nil]
  refine List.flatMap_congr fun x hx => congrArg (List.cons _) (List.map_congr_left fun s hs => ?_)
  exact readPropertyStatement_declare h.new
    (hok _ (List.mem_flatMap.2 ⟨x, hx, List.mem_cons_of_mem _ (List.mem_map_of_mem hs)⟩))

theorem readValues_eq (he : e.iri = D) (hok : ∀ r ∈ readValues g (topicsOf ss), r.Ok) :
    readValues (g.declare e) (topicsOf ss ++ [leafTopic D C]) = readValues g (topicsOf ss) := by
  subst he
  have hleaf : (leafTopic e.iri C).hasEnumType = false := by
    rw [Topic.hasEnumType, declaredTypes_leafTopic]
    decide +kernel
  unfold readValues at hok ⊢
  rw [List.filter_append, List.filter_cons_of_neg (by simp [hleaf]), List.filter_nil,
    List.append_nil]
  refine List.flatMap_congr fun x hx => ?_
  obtain ⟨t, v⟩ := x
  have htopic : t ∈ topicsOf ss := List.mem_of_mem_filter (List.fst_mem_of_mem_zipIdx hx)
  dsimp only
  rw [Graph.find?_declare_of_ne g (h.ne_of_mem_topics htopic)]
  refine congrArg (List.cons _ · ++ _) (List.map_congr_left fun a ha => ?_)
  refine readValueType_declare h.new (hok _ (List.mem_flatMap.2 ⟨(t, v), hx, ?_⟩))
  exact List.mem_append_left _ (List.mem_cons_of_mem _ (List.mem_map_of_mem ha))

end Room

/-! ## Edits -/

namespace Graph

theorem declare_of_ne (g : Graph) (he : e.kind ≠ .builtin) :
    g.declare e = { g with classes := g.classes ++ [e] } := by
  rw [declare, if_neg he]

theorem modifyClass_declare (he : e.kind ≠ .builtin) (hc : c ∈ g.ids)
    (f : ClassEntry → ClassEntry) :
    (g.declare e).modifyClass c f = (g.modifyClass c f).declare e := by
  rw [declare_of_ne _ he, declare_of_ne _ he]
  exact congrArg (fun classes => { g with classes }) (modify_append_of_lt e (mem_ids.1 hc))

/-- What fits the classes that are there leaves the last one alone. -/
theorem edit_declare (he : e.kind ≠ .builtin) {ed : Edit} (hed : ed.Fits g) :
    (g.declare e).edit ed = (g.edit ed).declare e := by
  cases ed with
  | commentClass c text => exact modifyClass_declare he hed _
  | mark c => exact modifyClass_declare he hed _
  | addRange p c => rw [edit_addRange, edit_addRange]; rfl
  | bind b => rw [edit_bind, edit_bind]; rfl
  | _ => rfl

theorem edits_declare (he : e.kind ≠ .builtin) {es : List Edit} (hes : g.Accepts es) :
    (g.declare e).edits es = (g.edits es).declare e := by
  induction es generalizing g with
  | nil => rfl
  | cons ed es ih => rw [edits_cons, edits_cons, edit_declare he hes.1, ih hes.2]

/-- Edits of properties and values do not see a new class. -/
theorem edit_grow {ed : Edit} (hed : ed.part? ≠ some .classes) :
    (g.grow e c).edit ed = (g.edit ed).grow e c := by
  cases ed with
  | commentClass | addParent | addSuccessor | mark => exact absurd rfl hed
  | addRange p d => rw [edit_addRange, edit_addRange]; rfl
  | bind b => rw [edit_bind, edit_bind]; rfl
  | _ => rfl

theorem edits_grow {es : List Edit} (hes : ∀ ed ∈ es, ed.part? ≠ some .classes) :
    (g.grow e c).edits es = (g.edits es).grow e c := by
  induction es generalizing g with
  | nil => rfl
  | cons ed es ih =>
      obtain ⟨hed, hes⟩ := List.forall_mem_cons.1 hes
      rw [edits_cons, edits_cons, edit_grow hed, ih hes]

theorem edits_leaf (g : Graph) (he : e.kind ≠ .builtin) (c : ClassId) :
    (g.declare e).edits [.mark g.size, .addParent g.size c] =
      g.grow { e with marked := true } c := by
  have hmark : (g.declare e).setMarked g.size true = g.declare { e with marked := true } := by
    rw [declare_of_ne _ he, declare_of_ne _ (e := { e with marked := true }) he]
    exact congrArg (fun classes => { g with classes }) (modify_append_length _ e g.classes)
  show ((g.declare e).setMarked g.size true).addParent g.size c = _
  rw [hmark, declare_of_ne _ (e := { e with marked := true }) he]
  rfl

theorem validate_grow (hg : g.InRange) (hc : c ∈ g.ids) (he : e.marked = true)
    (hvalid : g.validate = .ok ()) : (g.grow e c).validate = .ok () := by
  rw [validate_eq_ok_iff] at hvalid ⊢
  intro d hd
  have hgrown := inRange_grow hg hc e
  rw [isClassified_iff hgrown hd]
  rcases mem_ids_grow.1 hd with hold | rfl
  · obtain ⟨a, ha, hmarked⟩ := (isClassified_iff hg hold).1 (hvalid d hold)
    refine ⟨a, (above_grow_iff hg hold).2 ha, ?_⟩
    rwa [entry_grow_of_mem e c (hg.mem_ids_of_above hold ha)]
  · exact ⟨g.size, .refl, by rwa [entry_grow_size]⟩

end Graph

/-! ## The assembled graph -/

/-- What is known of a new class. -/
def leafEntry (D : Iri) : ClassEntry := { iri := D, kind := .ordinary, marked := true }

/-- What the new topic adds to the readings of each stage. -/
def leafReadings (n c : ClassId) : Part → List Reading
  | .classes => [.ok [.mark n], .ok [.addParent n c]]
  | .properties => []
  | .values => []

namespace Room

variable (h : Room ss (declaredGraph (topicsOf ss)) D C c)

include h

theorem declaredGraph_eq
    (hedition : editionOf (topicsOf (ss ++ newLeaf D C)) = editionOf (topicsOf ss)) :
    declaredGraph (topicsOf (ss ++ newLeaf D C)) =
      (declaredGraph (topicsOf ss)).declare (.ofKind D .ordinary) := by
  have hdata : (leafTopic D C).isDataType = false := by
    rw [Topic.isDataType, declaredTypes_leafTopic]
    decide +kernel
  have hnone : (declaredGraph (topicsOf ss)).find? (ClassEntry.ofKind D .ordinary).iri = none :=
    h.new
  have hlast : declareTopic (declaredGraph (topicsOf ss)) (leafTopic D C) =
      (declaredGraph (topicsOf ss)).declare (.ofKind D .ordinary) := by
    have hnew : (declaredGraph (topicsOf ss)).find? (leafTopic D C).subject = none := h.new
    rw [declareTopic, hnew]
    simp only [hdata, Bool.false_eq_true, if_false]
    show (Graph.insert _ (.ofKind D .ordinary)).1 = _
    rw [Graph.insert, hnone, Graph.declare_of_ne _ (by simp [ClassEntry.ofKind])]
  rw [declaredGraph, hedition, h.topics_eq, classTopics_append_leafTopic D h.ne_class h.place,
    List.foldl_append]
  exact hlast

variable
  (hok : ∀ part : Part, ∀ r ∈ part.readings (declaredGraph (topicsOf ss)) (topicsOf ss), r.Ok)
  (hedition : editionOf (topicsOf (ss ++ newLeaf D C)) = editionOf (topicsOf ss))

include hok hedition

/-- Each stage reads what it read before, and the first one the two new statements. -/
theorem readings_eq (part : Part) :
    part.readings (declaredGraph (topicsOf (ss ++ newLeaf D C))) (topicsOf (ss ++ newLeaf D C)) =
      part.readings (declaredGraph (topicsOf ss)) (topicsOf ss) ++
        leafReadings (declaredGraph (topicsOf ss)).size c part := by
  rw [h.declaredGraph_eq hedition, h.topics_eq]
  cases part with
  | classes => exact h.readClasses_eq rfl (hok .classes)
  | properties => exact (h.readProperties_eq rfl (hok .properties)).trans (List.append_nil _).symm
  | values => exact (h.readValues_eq rfl (hok .values)).trans (List.append_nil _).symm

/-- No reading that was accepted is refused. -/
theorem ok_readings (part : Part) :
    ∀ r ∈ part.readings (declaredGraph (topicsOf (ss ++ newLeaf D C)))
      (topicsOf (ss ++ newLeaf D C)), r.Ok := by
  intro r hr
  rw [h.readings_eq hok hedition] at hr
  rcases List.mem_append.1 hr with hr | hr
  · exact hok part r hr
  · cases part with
    | classes => rcases List.mem_pair.1 hr with rfl | rfl <;> exact ⟨_, rfl⟩
    | properties => exact absurd hr List.not_mem_nil
    | values => exact absurd hr List.not_mem_nil

theorem stageEdits_eq (part : Part) :
    stageEdits (declaredGraph (topicsOf (ss ++ newLeaf D C))) (topicsOf (ss ++ newLeaf D C)) part =
      stageEdits (declaredGraph (topicsOf ss)) (topicsOf ss) part ++
        (leafReadings (declaredGraph (topicsOf ss)).size c part).flatMap Reading.edits := by
  rw [stageEdits, h.readings_eq hok hedition, List.flatMap_append]
  rfl

/-- **Two more statements make one more class.** -/
theorem assembledGraph_eq :
    assembledGraph (ss ++ newLeaf D C) = (assembledGraph ss).grow (leafEntry D) c := by
  have hdeclares := declares_declaredGraph ss
  have hlater : ∀ ed ∈ stageEdits (declaredGraph (topicsOf ss)) (topicsOf ss) .properties ++
      stageEdits (declaredGraph (topicsOf ss)) (topicsOf ss) .values,
      ed.part? ≠ some .classes := by
    intro ed hed
    rcases List.mem_append.1 hed with hed | hed <;>
      rcases part_of_mem_stageEdits hdeclares.properties_eq hdeclares.values_eq hed with h | h <;>
        simp [h]
  have hsize : (declaredGraph (topicsOf ss)).size = ((declaredGraph (topicsOf ss)).edits
      (stageEdits (declaredGraph (topicsOf ss)) (topicsOf ss) .classes)).size := by
    rw [Graph.size_eq, Graph.size_eq, Graph.classIris_edits]
  have hordinary : (ClassEntry.ofKind D .ordinary).kind ≠ .builtin := by simp [ClassEntry.ofKind]
  -- the edits of the two statements stand between those of the classes and those of the rest
  have hall : allEdits (declaredGraph (topicsOf (ss ++ newLeaf D C)))
      (topicsOf (ss ++ newLeaf D C)) =
        stageEdits (declaredGraph (topicsOf ss)) (topicsOf ss) .classes ++
          ([.mark (declaredGraph (topicsOf ss)).size,
            .addParent (declaredGraph (topicsOf ss)).size c] ++
          (stageEdits (declaredGraph (topicsOf ss)) (topicsOf ss) .properties ++
            stageEdits (declaredGraph (topicsOf ss)) (topicsOf ss) .values)) := by
    simp [allEdits, h.stageEdits_eq hok hedition, leafReadings, Reading.edits]
  rw [assembledGraph, hall, h.declaredGraph_eq hedition, Graph.edits_append, Graph.edits_append,
    Graph.edits_declare hordinary (accepts_classes _ _), hsize, Graph.edits_leaf _ hordinary,
    Graph.edits_grow hlater, ← Graph.edits_append, ← List.append_assoc]
  rfl

end Room

/-- **Two more statements make one more class.** If an ontology is compiled, then it is with a new
    class `D` below `C` that does not change its edition, and its graph is the one from before,
    grown by that class. -/
theorem compile_newLeaf {o : Options} {r : Compiled} (hr : compile o ss = .ok r)
    (h : Room ss r.graph D C c)
    (hedition : editionOf (topicsOf (ss ++ newLeaf D C)) = editionOf (topicsOf ss)) :
    ∃ r', compile o (ss ++ newLeaf D C) = .ok r' ∧ r'.graph = r.graph.grow (leafEntry D) c := by
  obtain ⟨hcontext, b, hb, -⟩ := compile_eq_ok_iff.1 hr
  obtain ⟨hok, hvalid, -⟩ := (assemble_eq_ok_iff rfl).1 hb
  have hgraph := (compiled_of_compile hr).1
  have hiris : r.graph.classIris = (declaredGraph (topicsOf ss)).classIris := by
    rw [hgraph, assembledGraph, Graph.classIris_edits]
  have hroom : Room ss (declaredGraph (topicsOf ss)) D C c :=
    ⟨h.unsaid, Graph.find?_congr hiris D ▸ h.new, Graph.find?_congr hiris C ▸ h.superclass,
      h.ne_class, h.place⟩
  have heq := hroom.assembledGraph_eq hok hedition
  have hgrown : (assembledGraph (ss ++ newLeaf D C)).validate = .ok () := by
    rw [heq, ← hgraph]
    refine Graph.validate_grow (portrays_of_compile hr).inRange
      (Graph.mem_ids_of_find? h.superclass) rfl ?_
    rw [hgraph, ← validate_classes_iff ss rfl]
    exact hvalid
  have hassemble := (assemble_eq_ok_iff rfl).2
    ⟨hroom.ok_readings hok hedition, (validate_classes_iff _ rfl).2 hgrown, rfl⟩
  have hcompile := compile_eq_ok_iff.2 ⟨hcontext, _, hassemble, rfl⟩
  exact ⟨_, hcompile, by rw [(compiled_of_compile hcompile).1, heq, hgraph]⟩

end Ontotype

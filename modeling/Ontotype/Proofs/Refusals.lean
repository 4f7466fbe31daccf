import Ontotype.Proofs.Assembly.Demands

set_option autoImplicit false

/-! # When and why an ontology is refused

A compilation with a valid context succeeds if and only if the statements meet all that is demanded
of them (`Acceptable`), and otherwise reports the first demand that they do not meet. No stage lets
a demand pass that is its own, and none that comes later makes up for it: what the ontology has for
classes is settled before the first statement is read. -/

namespace Ontotype

open Vocabulary

variable {edition : Edition} {ss : List Statement} {o : Options} {e : CompileError}

/-! ## The error of an assembly -/

theorem snd_editsOf (rs : List Reading) : (editsOf rs).2 = rs.findSome? Reading.error? := by
  induction rs with
  | nil => rfl
  | cons r rs ih =>
      cases r with
      | ok es => exact ih
      | error e => rfl

theorem run_eq_error_iff {b : Build} {rs : List Reading} :
    (b.run rs).toExcept = .error e ↔ rs.findSome? Reading.error? = some e := by
  rw [← snd_editsOf, Outcome.toExcept, Build.run]
  cases (editsOf rs).2 <;> simp

/-- An assembly fails in the first stage that does, where all stages read in the graph of the
    declared classes. -/
theorem assemble_eq_error_iff {D : Graph} (hD : D = declaredGraph (topicsOf ss)) :
    assemble (topicsOf ss) = .error e ↔
      (readClasses D (topicsOf ss)).findSome? Reading.error? = some e ∨
      (∀ r ∈ readClasses D (topicsOf ss), r.Ok) ∧
        ((D.edits (stageEdits D (topicsOf ss) .classes)).validate = .error e ∨
        (D.edits (stageEdits D (topicsOf ss) .classes)).validate = .ok () ∧
          ((readProperties D (topicsOf ss)).findSome? Reading.error? = some e ∨
          (∀ r ∈ readProperties D (topicsOf ss), r.Ok) ∧
            (readValues D (topicsOf ss)).findSome? Reading.error? = some e)) := by
  rw [assemble_eq_run hD]
  simp only [bind_eq_error_iff, run_eq_error_iff, run_eq_ok_iff]
  constructor
  · refine Or.imp_right ?_
    rintro ⟨_, ⟨hok₁, _⟩, h⟩
    refine ⟨hok₁, h.imp_right ?_⟩
    rintro ⟨_, hvalid, h⟩
    refine ⟨hvalid, h.imp_right ?_⟩
    rintro ⟨_, ⟨hok₂, _⟩, h⟩
    exact ⟨hok₂, h⟩
  · refine Or.imp_right ?_
    rintro ⟨hok₁, h⟩
    refine ⟨_, ⟨hok₁, rfl⟩, h.imp_right ?_⟩
    rintro ⟨hvalid, h⟩
    refine ⟨(), hvalid, h.imp_right ?_⟩
    rintro ⟨hok₂, h⟩
    exact ⟨_, ⟨hok₂, rfl⟩, h⟩

/-! ## The first demand that is not met -/

/-- Once the classes can be read, those that the graph does not find classified are those of which
    the statements do not say so. -/
theorem validate_classes_eq_error_iff {D : Graph} (hD : D = declaredGraph (topicsOf ss))
    (hread : ∀ r ∈ readClasses D (topicsOf ss), r.Ok) :
    (D.edits (stageEdits D (topicsOf ss) .classes)).validate = .error e ↔
      First (Demand.Refused (editionOf (topicsOf ss)) ss)
        ((knownClasses ss).map .classified) e := by
  have hclasses := (ok_readClasses_iff fun a => hD ▸ mem_classIris_declaredGraph).1 hread
  have hclassified : ∀ c ∈ (D.edits (stageEdits D (topicsOf ss) .classes)).ids,
      (D.edits (stageEdits D (topicsOf ss) .classes)).isClassified c = true ↔
        Classified (editionOf (topicsOf ss)) ss
          ((D.edits (stageEdits D (topicsOf ss) .classes)).iri c) := by
    intro c hc
    rw [Graph.ids_edits] at hc
    have hids : c ∈ (assembledGraph ss).ids := by rwa [assembledGraph, ← hD, Graph.ids_edits]
    have hiri : (assembledGraph ss).iri c = D.iri c := by
      rw [assembledGraph, ← hD, Graph.iri_edits]
    rw [isClassified_classes ss hD hc, isClassified_iff_classified (portrays_assembledGraph ss)
      (fun _ _ => known_of_saysBelow hclasses) hids, hiri, Graph.iri_edits]
  rw [validate_eq_error_iff hclassified, Graph.classIris_edits, hD, classIris_declaredGraph]

/-- An assembly is refused for the first demand that is not met. -/
theorem assemble_eq_error_iff_first : assemble (topicsOf ss) = .error e ↔
    First (Demand.Refused (editionOf (topicsOf ss)) ss) (demands ss) e := by
  have hD : ∀ a, a ∈ (declaredGraph (topicsOf ss)).classIris ↔
      KnownClass (editionOf (topicsOf ss)) ss a := fun _ => mem_classIris_declaredGraph
  have hclasses := refuses_readClasses hD
  have hproperties := refuses_readProperties hD
  have hvalues := refuses_readValues hD
  rw [assemble_eq_error_iff rfl, demands, List.append_assoc, List.append_assoc, first_append_iff,
    hclasses e, hclasses.forall_ok_iff]
  refine or_congr_right (and_congr_right fun hmet => ?_)
  have hvalidate : ∀ {e}, _ ↔ _ := fun {e} =>
    validate_classes_eq_error_iff (e := e) rfl (hclasses.forall_ok_iff.2 hmet)
  have hvalid : ∀ x : Except CompileError Unit, x = .ok () ↔ ∀ e, ¬ x = .error e := by
    intro x
    cases x <;> simp
  rw [first_append_iff, first_append_iff, hvalid, hproperties e, hproperties.forall_ok_iff,
    hvalues e, hvalidate]
  simp only [hvalidate]

/-! ## Acceptable ontologies -/

/-- The statements meet all that is demanded of them. -/
structure Acceptable (edition : Edition) (ss : List Statement) : Prop where
  comments : ∀ s ∈ ss, s.kind = .comment →
    DescribesClass ss s.subject ∨ Says ss s.subject .type rdfProperty ∨ IsValue ss s.subject →
      s.object.isLiteral = true
  classes : ∀ s ∈ ss, DescribesClass ss s.subject →
    s.kind = .subClassOf ∧ s.object.isClassType = false ∨ s.kind = .supersededBy →
      NamesClass edition ss s
  properties : ∀ s ∈ ss, Says ss s.subject .type rdfProperty →
    s.kind = .rangeIncludes ∨ s.kind = .domainIncludes → NamesClass edition ss s
  types : ∀ a b, Says ss a .type b → b.isMetaType = false → KnownClass edition ss b
  classified : ∀ a, KnownClass edition ss a → Classified edition ss a

theorem acceptable_iff : Acceptable edition ss ↔
    Readable edition ss ∧ ∀ a, KnownClass edition ss a → Classified edition ss a := by
  constructor
  · intro h
    refine ⟨⟨fun s hs hclass => ⟨fun hkind => ?_, h.classes s hs hclass⟩,
      fun s hs hproperty => ⟨fun hkind => ?_, h.properties s hs hproperty⟩,
      fun s hs hvalue hkind => ?_, h.types⟩, h.classified⟩
    · exact h.comments s hs hkind (Or.inl hclass)
    · exact h.comments s hs hkind (Or.inr (Or.inl hproperty))
    · exact h.comments s hs hkind (Or.inr (Or.inr hvalue))
  · rintro ⟨hread, hclassified⟩
    refine ⟨fun s hs hkind h => ?_, fun s hs hclass => (hread.classes s hs hclass).2,
      fun s hs hproperty => (hread.properties s hs hproperty).2, hread.types, hclassified⟩
    rcases h with hclass | hproperty | hvalue
    · exact (hread.classes s hs hclass).1 hkind
    · exact (hread.properties s hs hproperty).1 hkind
    · exact hread.values s hs hvalue hkind

/-- The assembled graph is valid if and only if the statements classify every class. -/
theorem validate_assembledGraph_iff (hread : Readable (editionOf (topicsOf ss)) ss) :
    (assembledGraph ss).validate = .ok () ↔ ∀ a, KnownClass (editionOf (topicsOf ss)) ss a →
      Classified (editionOf (topicsOf ss)) ss a := by
  have hp := portrays_assembledGraph ss
  have hclassified := fun c hc => isClassified_iff_classified hp
    (fun _ _ => known_of_saysBelow hread.classes) (c := c) hc
  rw [Graph.validate_eq_ok_iff]
  constructor
  · intro h a ha
    obtain ⟨c, hc, rfl⟩ := Graph.mem_classIris.1 ((hp.mem_classIris a).2 ha)
    exact (hclassified c hc).1 (h c hc)
  · intro h c hc
    exact (hclassified c hc).2 (h _ ((hp.mem_classIris _).1 (Graph.iri_mem_classIris hc)))

theorem compile_isOk_iff_acceptable (hcontext : o.context.validate = .ok ()) :
    (compile o ss).isOk = true ↔ Acceptable (editionOf (topicsOf ss)) ss := by
  rw [compile_isOk_iff, acceptable_iff, and_iff_right hcontext]
  exact and_congr_right validate_assembledGraph_iff

/-- **An ontology is refused exactly if it does not meet a demand, and for the first one.** With a
    valid context, a compilation succeeds if and only if the statements are acceptable, and it fails
    with an error if and only if that answers the first demand that is not met. -/
theorem compile_refuses_first (ss : List Statement) (hcontext : o.context.validate = .ok ()) :
    ((compile o ss).isOk = true ↔ Acceptable (editionOf (topicsOf ss)) ss) ∧
      ∀ e, compile o ss = .error e ↔
        First (Demand.Refused (editionOf (topicsOf ss)) ss) (demands ss) e := by
  refine ⟨compile_isOk_iff_acceptable hcontext, fun e => ?_⟩
  rw [← assemble_eq_error_iff_first, compile, hcontext]
  show (assemble (topicsOf ss) >>= _) = _ ↔ _
  rw [bind_eq_error_iff]
  refine or_iff_left ?_
  rintro ⟨_, _, h⟩
  exact absurd h (by simp [pure, Except.pure])

/-- An ontology that does not meet two demands: the range of `opens` is no class of it, and no class
    above `Ghost` is declared to be a class, which is found first. -/
def ghostStatements : List Statement :=
  let term := Edition.https.term
  [{ subject := term "opens", predicate := rdfType, object := .entity rdfProperty },
   { subject := term "opens", predicate := term "rangeIncludes", object := .entity (term "Door") },
   { subject := term "Ghost", predicate := rdfsSubClassOf, object := .entity (term "Spirit") },
   { subject := term "Spirit", predicate := rdfsComment, object := .literal "Unseen." none }]

theorem compile_ghostStatements :
    compile {} ghostStatements = .error (.unclassified (Edition.https.term "Ghost")) ∧
      First (Demand.Refused (editionOf (topicsOf ghostStatements)) ghostStatements)
        (demands ghostStatements) (.unclassified (Edition.https.term "Ghost")) ∧
      ¬ Acceptable (editionOf (topicsOf ghostStatements)) ghostStatements := by
  have hmap : (compile {} ghostStatements).map (fun _ => ()) =
      .error (.unclassified (Edition.https.term "Ghost")) := by decide +kernel
  have herror : compile {} ghostStatements =
      .error (.unclassified (Edition.https.term "Ghost")) := by
    cases hcompile : compile {} ghostStatements with
    | error e =>
        rw [hcompile] at hmap
        exact congrArg Except.error (Except.error.inj hmap)
    | ok r =>
        rw [hcompile] at hmap
        exact absurd hmap (by simp [Except.map])
  obtain ⟨hok, hfirst⟩ := compile_refuses_first (o := {}) ghostStatements (by decide +kernel)
  refine ⟨herror, (hfirst _).1 herror, fun h => ?_⟩
  have := hok.2 h
  rw [herror] at this
  exact absurd this (by decide)

end Ontotype

import Ontotype.Proofs.Compile
import Ontotype.Proofs.Rdf.Respelling

set_option autoImplicit false

/-! # Assembling respelt statements

A graph refers to its classes, properties and enumeration values by their numbers, and asks of a
term no more than which IRI it names. So every step of an assembly commutes with respelling, as long
as the builtin classes are renamed with the others: the graph of the respelt statements is the graph
of the statements, respelt (`Renaming.assembledGraph_respell`), and either list is accepted if the
other one is (`Renaming.compile_isOk_respell`). -/

namespace Ontotype

open Vocabulary

variable {ρ : Iri → Iri} {g : Graph}

/-! ## Graphs and edits -/

/-- The entry with its IRI renamed. -/
def ClassEntry.respell (ρ : Iri → Iri) (e : ClassEntry) : ClassEntry := { e with iri := ρ e.iri }

/-- The entry with its IRI renamed and its successors respelt. -/
def PropertyEntry.respell (ρ : Iri → Iri) (p : PropertyEntry) : PropertyEntry :=
  { p with iri := ρ p.iri, successors := p.successors.map (Term.respell ρ) }

/-- The entry with its IRI renamed. -/
def ValueEntry.respell (ρ : Iri → Iri) (v : ValueEntry) : ValueEntry := { v with iri := ρ v.iri }

/-- The binding under the renamed name. -/
def Binding.respell (ρ : Iri → Iri) (b : Binding) : Binding := { b with key := ρ b.key }

/-- The graph with all IRIs renamed and all terms respelt. -/
def Graph.respell (ρ : Iri → Iri) (g : Graph) : Graph :=
  { g with
    classes := g.classes.map (ClassEntry.respell ρ)
    properties := g.properties.map (PropertyEntry.respell ρ)
    bindings := g.bindings.map (Binding.respell ρ)
    values := g.values.map (ValueEntry.respell ρ) }

/-- The edit with all IRIs renamed and all terms respelt. -/
def Edit.respell (ρ : Iri → Iri) : Edit → Edit
  | .addProperty iri => .addProperty (ρ iri)
  | .addPropertySuccessor p t => .addPropertySuccessor p (t.respell ρ)
  | .bind b => .bind (b.respell ρ)
  | .addValue iri => .addValue (ρ iri)
  | .report s => .report (s.respell ρ)
  | e => e

/-- The error with its statement respelt, or its IRI renamed. -/
def CompileError.respell (ρ : Iri → Iri) : CompileError → CompileError
  | .commentNotText s => .commentNotText (s.respell ρ)
  | .notAReference s => .notAReference (s.respell ρ)
  | .unknownClass s => .unknownClass (s.respell ρ)
  | .unclassified iri => .unclassified (ρ iri)
  | .invalidContext e => .invalidContext e

/-- The reading with its edits or its error respelt. -/
def Reading.respell (ρ : Iri → Iri) : Reading → Reading
  | .ok es => .ok (es.map (Edit.respell ρ))
  | .error e => .error (e.respell ρ)

theorem append_map {α β : Type} (f : α → β) (xs : List α) (x : α) :
    xs.map f ++ [f x] = (xs ++ [x]).map f := by
  rw [List.map_append, List.map_singleton]

namespace Graph

variable (ρ : Iri → Iri) (g : Graph)

@[simp] theorem size_respell : (g.respell ρ).size = g.size := List.length_map ..

@[simp] theorem ids_respell : (g.respell ρ).ids = g.ids := by
  rw [ids, size_respell, ids]

theorem ranges_respell (p : PropertyId) :
    ((g.respell ρ).property p).ranges = (g.property p).ranges := by
  rw [property, respell, List.getElem?_map, property]
  cases g.properties[p]? <;> rfl

theorem modifyClass_respell (c : ClassId) (m : ClassEntry → ClassEntry)
    (hm : ∀ e, m (e.respell ρ) = (m e).respell ρ) :
    (g.respell ρ).modifyClass c m = (g.modifyClass c m).respell ρ :=
  congrArg (fun classes => { g.respell ρ with classes }) (modify_map hm g.classes c)

theorem modifyProperty_respell (p : PropertyId) (m m' : PropertyEntry → PropertyEntry)
    (hm : ∀ e, m' (e.respell ρ) = (m e).respell ρ) :
    (g.respell ρ).modifyProperty p m' = (g.modifyProperty p m).respell ρ :=
  congrArg (fun properties => { g.respell ρ with properties }) (modify_map hm g.properties p)

theorem modifyValue_respell (v : ValueId) (m : ValueEntry → ValueEntry)
    (hm : ∀ e, m (e.respell ρ) = (m e).respell ρ) :
    { g.respell ρ with values := (g.respell ρ).values.modify v m } =
      { g with values := g.values.modify v m }.respell ρ :=
  congrArg (fun values => { g.respell ρ with values }) (modify_map hm g.values v)

/-- Edits commute with respelling: they compare numbers, and no IRIs. -/
theorem edit_respell (e : Edit) : (g.respell ρ).edit (e.respell ρ) = (g.edit e).respell ρ := by
  cases e with
  | commentClass c text => exact g.modifyClass_respell ρ c _ fun _ => rfl
  | mark c => exact g.modifyClass_respell ρ c _ fun _ => rfl
  | addProperty iri =>
      exact congrArg (fun properties => { g.respell ρ with properties })
        (append_map (PropertyEntry.respell ρ) g.properties { iri := iri })
  | commentProperty p text => exact g.modifyProperty_respell ρ p _ _ fun _ => rfl
  | addRange p c =>
      show (if c ∈ ((g.respell ρ).property p).ranges then g.respell ρ else _) =
        (if c ∈ (g.property p).ranges then g else g.addRange p c).respell ρ
      rw [ranges_respell, apply_ite (respell ρ)]
      exact if_congr Iff.rfl rfl (g.modifyProperty_respell ρ p _ _ fun _ => rfl)
  | addPropertySuccessor p t =>
      refine g.modifyProperty_respell ρ p _ _ fun e => ?_
      exact congrArg (fun successors => { e.respell ρ with successors })
        (append_map (Term.respell ρ) e.successors t)
  | bind b =>
      show (g.respell ρ).bind (b.respell ρ) = (g.bind b).respell ρ
      rw [bind, bind, apply_ite (respell ρ)]
      refine if_congr (Bool.eq_iff_iff.1 List.any_map) rfl ?_
      exact congrArg (fun bindings => { g.respell ρ with bindings })
        (append_map (Binding.respell ρ) g.bindings b)
  | addValue iri =>
      exact congrArg (fun values => { g.respell ρ with values })
        (append_map (ValueEntry.respell ρ) g.values { iri := iri })
  | commentValue v text => exact g.modifyValue_respell ρ v _ fun _ => rfl
  | _ => rfl

theorem edits_respell (es : List Edit) :
    (g.respell ρ).edits (es.map (Edit.respell ρ)) = (g.edits es).respell ρ := by
  rw [edits, List.foldl_map, edits]
  exact List.foldl_hom (respell ρ) fun g e => g.edit_respell ρ e

/-! ## Validity -/

theorem ancestors_respell (c : ClassId) : (g.respell ρ).ancestors c = g.ancestors c := by
  rw [ancestors, reach, size_respell]
  rfl

theorem isClassified_respell (c : ClassId) :
    (g.respell ρ).isClassified c = g.isClassified c := by
  have hmarked : ∀ a, ((g.respell ρ).entry a).marked = (g.entry a).marked := by
    intro a
    rw [entry, respell, List.getElem?_map, entry]
    cases g.classes[a]? <;> rfl
  rw [isClassified, ancestors_respell, isClassified]
  simp only [hmarked]

section

variable (h : ρ default = default)

include h

theorem entry_respell (c : ClassId) : (g.respell ρ).entry c = (g.entry c).respell ρ :=
  getD_map (congrArg (fun iri => { (default : ClassEntry) with iri }) h) g.classes c

theorem property_respell (p : PropertyId) : (g.respell ρ).property p = (g.property p).respell ρ :=
  getD_map (congrArg (fun iri => { (default : PropertyEntry) with iri }) h) g.properties p

theorem value_respell (v : ValueId) : (g.respell ρ).value v = (g.value v).respell ρ :=
  getD_map (congrArg (fun iri => { (default : ValueEntry) with iri }) h) g.values v

theorem iri_respell (c : ClassId) : (g.respell ρ).iri c = ρ (g.iri c) :=
  congrArg ClassEntry.iri (g.entry_respell ρ h c)

theorem validate_respell :
    (g.respell ρ).validate = g.validate.mapError (CompileError.respell ρ) := by
  rw [validate, ids_respell, validate]
  simp only [isClassified_respell]
  split
  · rw [g.iri_respell ρ h]
    rfl
  · rfl

end

end Graph

theorem Statement.comment?_respell (hρ : Renaming ρ) (s : Statement) :
    (s.respell ρ).comment? = s.comment?.mapError (CompileError.respell ρ) := by
  rw [comment?, hρ.kind_respell, comment?]
  split
  · rw [object_respell]
    cases s.object with
    | entity a => rfl
    | literal value language => rfl
    | compact label name =>
        rw [Term.respell]
        cases (Term.compact label name).iri? <;> rfl
  · rfl

theorem seedGraph_respell {edition edition' : Edition}
    (h : ∀ name, ρ (edition.term name) = edition'.term name) :
    (seedGraph edition).respell ρ = seedGraph edition' := by
  -- the links are between numbers, and stay what they are
  have hlinks : ∀ (g : Graph) (cs : List ClassId),
      Graph.respell ρ (cs.foldl (fun g c => g.addUnionMember unionId c) g) =
        cs.foldl (fun g c => g.addUnionMember unionId c) (g.respell ρ) :=
    fun _ _ => (List.foldl_hom (Graph.respell ρ) fun _ _ => rfl).symm
  have hclasses : ∀ es, Graph.respell ρ { classes := es } =
      { classes := es.map (ClassEntry.respell ρ) } := fun _ => rfl
  rw [seedGraph, hlinks, hclasses, seedGraph, List.map_append, List.map_map, List.map_singleton]
  simp only [Function.comp_def, ClassEntry.respell, ClassEntry.builtin, ClassEntry.ofKind, h]

namespace Renaming

variable (hρ : Renaming ρ)

include hρ

/-! ## Reading -/

theorem find?_respell (g : Graph) (a : Iri) : (g.respell ρ).find? (ρ a) = g.find? a := by
  rw [Graph.find?, Graph.respell, List.findIdx?_map, Graph.find?]
  refine congrArg (List.findIdx? · g.classes) (funext fun e => ?_)
  exact decide_eq_decide.2 hρ.injective.eq_iff

theorem resolve_respell (g : Graph) (s : Statement) :
    (g.respell ρ).resolve (s.respell ρ) = (g.resolve s).mapError (CompileError.respell ρ) := by
  rw [Graph.resolve, Statement.object_respell, Term.iri?_respell, Graph.resolve]
  cases s.object.iri? with
  | none => rfl
  | some a =>
      rw [Option.map_some]
      dsimp only
      rw [hρ.find?_respell]
      cases g.find? a <;> rfl

section

variable (g : Graph) (s : Statement)

theorem comment_respell {f : String → Edit} (hf : ∀ text, (f text).respell ρ = f text) :
    ((s.respell ρ).comment?.map fun text => text.toList.map f : Reading) =
      Reading.respell ρ (s.comment?.map fun text => text.toList.map f) := by
  rw [s.comment?_respell hρ]
  cases s.comment? with
  | error e => rfl
  | ok text =>
      cases text with
      | none => rfl
      | some text => exact congrArg (fun e => Except.ok [e]) (hf text).symm

theorem resolved_respell {f f' : ClassId → Edit} (hf : ∀ c, (f c).respell ρ = f' c) :
    (((g.respell ρ).resolve (s.respell ρ)).map fun c => [f' c] : Reading) =
      Reading.respell ρ ((g.resolve s).map fun c => [f c]) := by
  rw [hρ.resolve_respell]
  cases g.resolve s with
  | error e => rfl
  | ok c => exact congrArg (fun e => Except.ok [e]) (hf c).symm

theorem readClassStatement_respell :
    readClassStatement (g.respell ρ) (s.respell ρ) = (readClassStatement g s).respell ρ := by
  rw [readClassStatement, Statement.subject_respell, hρ.find?_respell, hρ.kind_respell,
    Statement.object_respell, hρ.isClassType_respell, Term.isLiteral_respell, readClassStatement]
  cases g.find? s.subject with
  | none => rfl
  | some c =>
      cases s.kind with
      | comment => exact hρ.comment_respell s fun _ => rfl
      | subClassOf =>
          show (if _ then _ else _) = Reading.respell ρ (if _ then _ else _)
          rw [apply_ite (Reading.respell ρ)]
          exact if_congr Iff.rfl rfl (hρ.resolved_respell g s fun _ => rfl)
      | supersededBy => exact hρ.resolved_respell g s fun _ => rfl
      | type =>
          show (if _ then _ else _) = Reading.respell ρ (if _ then _ else _)
          rw [apply_ite (Reading.respell ρ), apply_ite (Reading.respell ρ)]
          rfl
      | domainIncludes => rfl
      | rangeIncludes => rfl
      | other => rfl

theorem readPropertyStatement_respell (p : PropertyId) :
    readPropertyStatement (g.respell ρ) p (s.respell ρ) =
      (readPropertyStatement g p s).respell ρ := by
  rw [readPropertyStatement, hρ.kind_respell, Statement.object_respell, Term.isLiteral_respell,
    readPropertyStatement]
  cases s.kind with
  | comment => exact hρ.comment_respell s fun _ => rfl
  | rangeIncludes => exact hρ.resolved_respell g s fun _ => rfl
  | domainIncludes => exact hρ.resolved_respell g s fun _ => rfl
  | type =>
      show (if _ then _ else _) = Reading.respell ρ (if _ then _ else _)
      rw [apply_ite (Reading.respell ρ)]
      rfl
  | supersededBy => rfl
  | subClassOf => rfl
  | other => rfl

theorem readValueType_respell (v : ValueId) (subject type : Iri) :
    readValueType (g.respell ρ) v (ρ subject) (ρ type) =
      (readValueType g v subject type).respell ρ := by
  have htype : ρ rdfType = rdfType := hρ.fixed rdfType (by decide +kernel)
  rw [readValueType, hρ.find?_respell, readValueType]
  cases g.find? type with
  | some c => rfl
  | none =>
      show Except.error (CompileError.unknownClass _) =
        Except.error (CompileError.unknownClass (Statement.respell ρ _))
      rw [Statement.respell, htype]
      rfl

theorem readValueStatement_respell (v : ValueId) (elsewhere : Bool) :
    readValueStatement v elsewhere (s.respell ρ) =
      (readValueStatement v elsewhere s).respell ρ := by
  rw [readValueStatement, hρ.kind_respell, readValueStatement]
  cases s.kind with
  | comment => exact hρ.comment_respell s fun _ => rfl
  | type => rfl
  | _ => cases elsewhere <;> rfl

end

section

variable (g : Graph) (topics : List Topic)

theorem readClasses_respell : readClasses (g.respell ρ) (topics.map (Topic.respell ρ)) =
    (readClasses g topics).map (Reading.respell ρ) := by
  rw [readClasses, hρ.classTopics_respell, List.flatMap_map, readClasses, List.map_flatMap]
  refine List.flatMap_congr fun t _ => ?_
  rw [Topic.respell, List.map_map, List.map_map]
  exact List.map_congr_left fun s _ => hρ.readClassStatement_respell g s

theorem readProperties_respell : readProperties (g.respell ρ) (topics.map (Topic.respell ρ)) =
    (readProperties g topics).map (Reading.respell ρ) := by
  have hlength : (g.respell ρ).properties.length = g.properties.length := List.length_map ..
  rw [readProperties, filter_respell hρ.isProperty_respell, hlength, List.zipIdx_map,
    List.flatMap_map, readProperties, List.map_flatMap]
  refine List.flatMap_congr fun x _ => ?_
  show _ :: List.map _ (x.1.statements.map (Statement.respell ρ)) = _
  rw [List.map_map, List.map_cons, List.map_map]
  refine congrArg (List.cons _) (List.map_congr_left fun s _ => ?_)
  exact hρ.readPropertyStatement_respell g s x.2

theorem readValues_respell : readValues (g.respell ρ) (topics.map (Topic.respell ρ)) =
    (readValues g topics).map (Reading.respell ρ) := by
  have hlength : (g.respell ρ).values.length = g.values.length := List.length_map ..
  rw [readValues, filter_respell hρ.hasEnumType_respell, hlength, List.zipIdx_map, List.flatMap_map,
    readValues, List.map_flatMap]
  refine List.flatMap_congr fun x _ => ?_
  have htypes : (x.1.respell ρ).declaredTypes.filter (!·.isMetaType) =
      (x.1.declaredTypes.filter (!·.isMetaType)).map ρ := by
    rw [hρ.declaredTypes_respell, List.filter_map]
    simp only [Function.comp_def, hρ.isMetaType_rename]
  show _ :: List.map _ ((x.1.respell ρ).declaredTypes.filter (!·.isMetaType)) ++
    List.map (readValueStatement x.2 (((g.respell ρ).find? (ρ x.1.subject)).isSome ||
      (x.1.respell ρ).isProperty)) (x.1.statements.map (Statement.respell ρ)) = _
  rw [htypes, hρ.find?_respell, hρ.isProperty_respell, List.map_append, List.map_cons, List.map_map,
    List.map_map, List.map_map, List.map_map]
  refine congrArg₂ (fun types statements => _ :: types ++ statements)
    (List.map_congr_left fun type _ => ?_) (List.map_congr_left fun s _ => ?_)
  · exact hρ.readValueType_respell g x.2 x.1.subject type
  · exact hρ.readValueStatement_respell s x.2 _

theorem readings_respell (part : Part) :
    part.readings (g.respell ρ) (topics.map (Topic.respell ρ)) =
      (part.readings g topics).map (Reading.respell ρ) := by
  cases part with
  | classes => exact hρ.readClasses_respell g topics
  | properties => exact hρ.readProperties_respell g topics
  | values => exact hρ.readValues_respell g topics

theorem allEdits_respell : allEdits (g.respell ρ) (topics.map (Topic.respell ρ)) =
    (allEdits g topics).map (Edit.respell ρ) := by
  have hedits : ∀ r : Reading, (r.respell ρ).edits = r.edits.map (Edit.respell ρ) := by
    intro r
    cases r <;> rfl
  have hstage : ∀ part, stageEdits (g.respell ρ) (topics.map (Topic.respell ρ)) part =
      (stageEdits g topics part).map (Edit.respell ρ) := by
    intro part
    rw [stageEdits, hρ.readings_respell, List.flatMap_map, stageEdits, List.map_flatMap]
    exact List.flatMap_congr fun r _ => hedits r
  rw [allEdits, hstage, hstage, hstage, allEdits, List.map_append, List.map_append]

end

/-! ## Declaring -/

theorem declareTopic_respell (g : Graph) (t : Topic) :
    declareTopic (g.respell ρ) (t.respell ρ) = (declareTopic g t).respell ρ := by
  have hinsert : ∀ e : ClassEntry, (g.respell ρ).insert (e.respell ρ) =
      ((g.insert e).1.respell ρ, (g.insert e).2) := by
    intro e
    rw [Graph.insert, show (e.respell ρ).iri = ρ e.iri from rfl, hρ.find?_respell, Graph.insert]
    cases g.find? e.iri with
    | some c => rfl
    | none =>
        rw [Graph.size_respell]
        exact congrArg (fun classes => ({ g.respell ρ with classes }, g.size))
          (append_map (ClassEntry.respell ρ) g.classes e)
  rw [declareTopic, show (t.respell ρ).subject = ρ t.subject from rfl, hρ.find?_respell,
    hρ.isDataType_respell, declareTopic]
  cases g.find? t.subject with
  | some c => rfl
  | none =>
      cases t.isDataType with
      | true =>
          exact congrArg (fun x : Graph × ClassId => x.1.addUnionMember unionId x.2)
            (hinsert (.builtin t.subject (.primitive .string)))
      | false => exact congrArg Prod.fst (hinsert (.ofKind t.subject .ordinary))

variable {ss : List Statement}

/-- The builtin classes are renamed with the edition that the statements are written in. -/
theorem declaredGraph_respell (h : ∀ name, ρ ((editionOf (topicsOf ss)).term name) =
      (editionOf (topicsOf (ss.map (Statement.respell ρ)))).term name) :
    declaredGraph (topicsOf (ss.map (Statement.respell ρ))) =
      (declaredGraph (topicsOf ss)).respell ρ := by
  rw [declaredGraph, ← seedGraph_respell h, hρ.topicsOf_respell, hρ.classTopics_respell,
    List.foldl_map]
  exact List.foldl_hom (Graph.respell ρ) fun g t => hρ.declareTopic_respell g t

/-! ## Assembly -/

/-- The graph of respelt statements is the respelt graph. -/
theorem assembledGraph_respell (h : ∀ name, ρ ((editionOf (topicsOf ss)).term name) =
      (editionOf (topicsOf (ss.map (Statement.respell ρ)))).term name) :
    assembledGraph (ss.map (Statement.respell ρ)) = (assembledGraph ss).respell ρ := by
  rw [assembledGraph, hρ.declaredGraph_respell h, hρ.topicsOf_respell, hρ.allEdits_respell,
    Graph.edits_respell, assembledGraph]

/-- Respelt statements are accepted if and only if the statements are. -/
theorem compile_isOk_respell (o : Options) (h : ∀ name, ρ ((editionOf (topicsOf ss)).term name) =
      (editionOf (topicsOf (ss.map (Statement.respell ρ)))).term name) :
    (compile o (ss.map (Statement.respell ρ))).isOk = (compile o ss).isOk := by
  have hok : ∀ r : Reading, (r.respell ρ).Ok ↔ r.Ok := by
    intro r
    cases r <;> simp [Reading.Ok, Reading.respell]
  rw [Bool.eq_iff_iff, compile_isOk_iff, compile_isOk_iff, hρ.assembledGraph_respell h,
    Graph.validate_respell _ _ hρ.map_default, mapError_eq_ok_iff,
    ← readings_ok_iff fun a => mem_classIris_declaredGraph,
    ← readings_ok_iff fun a => mem_classIris_declaredGraph, hρ.declaredGraph_respell h,
    hρ.topicsOf_respell]
  simp only [hρ.readings_respell, List.forall_mem_map, hok]

end Renaming

/-! ## The IRIs of a graph -/

/-- The IRIs that the entry of a property names. -/
def PropertyEntry.iris (p : PropertyEntry) : List Iri := p.iri :: p.successors.filterMap Term.iri?

/-- All IRIs that a graph names. -/
def Graph.iris (g : Graph) : List Iri :=
  g.classIris ++ g.properties.flatMap PropertyEntry.iris ++ g.bindings.map Binding.key
    ++ g.valueIris

theorem Graph.mem_iris {a : Iri} : a ∈ g.iris ↔ a ∈ g.classIris ∨
    (∃ p ∈ g.properties, a ∈ p.iris) ∨ (∃ b ∈ g.bindings, b.key = a) ∨ a ∈ g.valueIris := by
  rw [iris, List.mem_append, List.mem_append, List.mem_append, List.mem_flatMap, List.mem_map,
    or_assoc, or_assoc]

/-- To respell a graph is to rename the IRIs that it names. -/
theorem Graph.respell_congr {ρ' : Iri → Iri} (h : ∀ a ∈ g.iris, ρ a = ρ' a) :
    g.respell ρ = g.respell ρ' := by
  have hclass : ∀ e ∈ g.classes, e.respell ρ = e.respell ρ' := fun e he =>
    congrArg (fun iri => { e with iri }) (h _ (mem_iris.2 (.inl (List.mem_map_of_mem he))))
  have hproperty : ∀ p ∈ g.properties, p.respell ρ = p.respell ρ' := by
    intro p hp
    have hiri : ∀ a ∈ p.iris, ρ a = ρ' a := fun a ha => h a (mem_iris.2 (.inr (.inl ⟨p, hp, ha⟩)))
    refine congrArg₂ (fun iri successors => { p with iri, successors })
      (hiri _ List.mem_cons_self)
      (List.map_congr_left fun t ht => Term.respell_congr fun a ha => ?_)
    exact hiri a (List.mem_cons_of_mem _ (List.mem_filterMap.2 ⟨t, ht, ha⟩))
  have hbinding : ∀ b ∈ g.bindings, b.respell ρ = b.respell ρ' := fun b hb =>
    congrArg (fun key => { b with key }) (h _ (mem_iris.2 (.inr (.inr (.inl ⟨b, hb, rfl⟩)))))
  have hvalue : ∀ v ∈ g.values, v.respell ρ = v.respell ρ' := fun v hv =>
    congrArg (fun iri => { v with iri })
      (h _ (mem_iris.2 (.inr (.inr (.inr (List.mem_map_of_mem hv))))))
  rw [respell, respell, List.map_congr_left hclass, List.map_congr_left hproperty,
    List.map_congr_left hbinding, List.map_congr_left hvalue]

section

variable {edition : Edition} {ss : List Statement} {a b : Iri} {k : Predicate}

/-- What something is said about is named by a statement. -/
theorem Says.mem_iris (h : Says ss a k b) : ∃ s ∈ ss, a ∈ s.iris := by
  obtain ⟨s, hs, hsub, _⟩ := h
  exact ⟨s, hs, Statement.mem_iris.2 (.inl hsub.symm)⟩

namespace Portrays

variable (hp : Portrays edition ss g)

include hp

theorem mem_iris_of_propertyIris (ha : a ∈ g.propertyIris) : ∃ s ∈ ss, a ∈ s.iris :=
  ((hp.mem_propertyIris a).1 ha).mem_iris

/-- The successors of a property are objects of statements. -/
theorem mem_iris_of_successors {n : PropertyId} (hn : n < g.properties.length) {t : Term}
    (ht : t ∈ (g.property n).successors) (ha : t.iri? = some a) : ∃ s ∈ ss, a ∈ s.iris := by
  rw [hp.property_successors n hn, successorTerms] at ht
  obtain ⟨s, hs, hsuccessor⟩ := List.mem_filterMap.1 ht
  rw [Statement.successor?, Option.ite_none_right_eq_some] at hsuccessor
  obtain ⟨_, hobject⟩ := hsuccessor
  refine ⟨s, (mem_statements_topicAbout.1 hs).1, Statement.mem_iris.2 (.inr (.inr ?_))⟩
  rw [Option.some.inj hobject, ha]

/-- The IRIs of an assembled graph are those of the builtin classes and those of the statements. -/
theorem iris (ha : a ∈ g.iris) : a ∈ seedIris edition ∨ ∃ s ∈ ss, a ∈ s.iris := by
  rcases Graph.mem_iris.1 ha with h | ⟨p, hmem, h⟩ | ⟨b, hb, rfl⟩ | h
  · refine ((hp.mem_classIris a).1 h).imp_right fun hclass => ?_
    obtain ⟨s, hs, hsub⟩ := (describesClass_iff.1 hclass).1
    exact ⟨s, hs, Statement.mem_iris.2 (.inl hsub.symm)⟩
  · right
    rcases List.mem_cons.1 h with rfl | h
    · exact hp.mem_iris_of_propertyIris (List.mem_map_of_mem hmem)
    · obtain ⟨t, ht, hiri⟩ := List.mem_filterMap.1 h
      obtain ⟨n, hn, rfl⟩ := List.getElem_of_mem hmem
      have heq : g.property n = g.properties[n] := by
        rw [Graph.property, List.getElem?_eq_getElem hn]
        rfl
      exact hp.mem_iris_of_successors hn (heq ▸ ht) hiri
  · right
    refine hp.mem_iris_of_propertyIris ?_
    rw [hp.key b hb]
    exact Graph.mem_propertyIris.2 ⟨_, (hp.inRange.binding b hb).2, rfl⟩
  · obtain ⟨b, hsay, _⟩ := (hp.mem_valueIris a).1 h
    exact .inr hsay.mem_iris

end Portrays

end

end Ontotype

import Ontotype.Proofs.Assembly.Readings
import Ontotype.Proofs.Assembly.Declared
import Ontotype.Proofs.Results

set_option autoImplicit false

/-! # The run of the stages

The three stages of assembly read in one and the same graph, that of the declared classes: what a
stage reads depends on the IRIs of the classes alone, and no edit changes those. So an assembly
that succeeds is a single run of edits on the declared graph (`assemble_eq_ok_iff`), and every edit
of the run fits the graph that it is applied to (`accepts_allEdits`). -/

namespace Ontotype

variable {g : Graph} {topics : List Topic} {t : Topic} {s : Statement} {e : Edit} {c : ClassId}

/-! ## The edits of a stage -/

/-- The parts of a graph, each of which is the concern of one stage. -/
inductive Part where
  | classes
  | properties
  | values
  deriving DecidableEq, Repr

/-- The part of the graph that an edit changes. -/
def Edit.part? : Edit → Option Part
  | .commentClass .. | .addParent .. | .addSuccessor .. | .mark _ => some .classes
  | .addProperty _ | .commentProperty .. | .addRange .. | .addPropertySuccessor .. | .bind _ =>
    some .properties
  | .addValue _ | .commentValue .. | .addMember .. => some .values
  | .report _ => none

/-- What the stage reads that is concerned with a part. -/
def Part.readings (g : Graph) (topics : List Topic) : Part → List Reading
  | .classes => readClasses g topics
  | .properties => readProperties g topics
  | .values => readValues g topics

/-- The edits that a stage asks for. -/
def stageEdits (g : Graph) (topics : List Topic) (part : Part) : List Edit :=
  (part.readings g topics).flatMap Reading.edits

/-- The edits of all stages. -/
def allEdits (g : Graph) (topics : List Topic) : List Edit :=
  stageEdits g topics .classes ++ stageEdits g topics .properties ++ stageEdits g topics .values

/-- What a topic asks for about the class that it describes. -/
def classEdits (g : Graph) (t : Topic) : List Edit :=
  t.statements.flatMap fun s => (readClassStatement g s).edits

/-- What a topic asks for about the property that it describes. -/
def propertyEdits (g : Graph) (x : Topic × PropertyId) : List Edit :=
  .addProperty x.1.subject
    :: x.1.statements.flatMap fun s => (readPropertyStatement g x.2 s).edits

/-- What a topic asks for about the enumeration value that it describes. -/
def valueEdits (g : Graph) (x : Topic × ValueId) : List Edit :=
  .addValue x.1.subject
    :: (((x.1.declaredTypes.filter (!·.isMetaType)).flatMap fun type =>
          (readValueType g x.2 x.1.subject type).edits)
        ++ x.1.statements.flatMap fun s =>
          (readValueStatement x.2 ((g.find? x.1.subject).isSome || x.1.isProperty) s).edits)

theorem stageEdits_classes (g : Graph) (topics : List Topic) :
    stageEdits g topics .classes = (classTopics topics).flatMap (classEdits g) := by
  rw [stageEdits, Part.readings, readClasses, List.flatMap_assoc]
  refine List.flatMap_congr fun t _ => ?_
  rw [List.flatMap_map]
  rfl

theorem stageEdits_properties (hg : g.properties = []) (topics : List Topic) :
    stageEdits g topics .properties =
      (topics.filter Topic.isProperty).zipIdx.flatMap (propertyEdits g) := by
  rw [stageEdits, Part.readings, readProperties, hg, List.flatMap_assoc]
  refine List.flatMap_congr fun x _ => ?_
  rw [List.flatMap_cons, List.flatMap_map]
  rfl

theorem stageEdits_values (hg : g.values = []) (topics : List Topic) :
    stageEdits g topics .values =
      (topics.filter Topic.hasEnumType).zipIdx.flatMap (valueEdits g) := by
  rw [stageEdits, Part.readings, readValues, hg, List.flatMap_assoc]
  refine List.flatMap_congr fun x _ => ?_
  rw [List.flatMap_append, List.flatMap_cons, List.flatMap_map, List.flatMap_map]
  rfl

/-- Of a topic that describes a property, nothing but its statements is left to look through, if
    additions are not what is looked for. -/
theorem filterMap_propertyEdits {α : Type} {f : Edit → Option α}
    (hnew : ∀ a, f (.addProperty a) = none) (x : Topic × PropertyId) :
    (propertyEdits g x).filterMap f =
      (x.1.statements.flatMap fun s => (readPropertyStatement g x.2 s).edits).filterMap f := by
  rw [propertyEdits, List.filterMap_cons, hnew]

theorem filterMap_valueEdits {α : Type} {f : Edit → Option α} (hnew : ∀ a, f (.addValue a) = none)
    (hmember : ∀ c v, f (.addMember c v) = none) (x : Topic × ValueId) :
    (valueEdits g x).filterMap f =
      (x.1.statements.flatMap fun s => (readValueStatement x.2
        ((g.find? x.1.subject).isSome || x.1.isProperty) s).edits).filterMap f := by
  have htypes : ((x.1.declaredTypes.filter (!·.isMetaType)).flatMap fun type =>
      (readValueType g x.2 x.1.subject type).edits).filterMap f = [] := by
    refine List.filterMap_eq_nil_iff.2 fun e he => ?_
    obtain ⟨type, _, he⟩ := List.mem_flatMap.1 he
    obtain ⟨c, _, rfl⟩ := mem_edits_readValueType.1 he
    exact hmember c x.2
  rw [valueEdits, List.filterMap_cons, hnew, List.filterMap_append, htypes, List.nil_append]

/-! ## Each stage keeps to its part -/

theorem part_of_mem_classEdits (he : e ∈ classEdits g t) :
    e.part? = some .classes ∨ e.part? = none := by
  obtain ⟨s, _, he⟩ := List.mem_flatMap.1 he
  obtain ⟨c, _, h⟩ := mem_edits_readClassStatement.1 he
  rcases h with ⟨_, _, rfl⟩ | ⟨_, _, _, rfl⟩ | ⟨_, _, _, rfl⟩ | ⟨_, rfl⟩ | ⟨_, rfl⟩
  · exact Or.inl rfl
  · exact Or.inl rfl
  · exact Or.inl rfl
  · exact Or.inl rfl
  · exact Or.inr rfl

theorem part_of_mem_propertyEdits {x : Topic × PropertyId} (he : e ∈ propertyEdits g x) :
    e.part? = some .properties ∨ e.part? = none := by
  rcases List.mem_cons.1 he with rfl | he
  · exact Or.inl rfl
  · obtain ⟨s, _, he⟩ := List.mem_flatMap.1 he
    rcases mem_edits_readPropertyStatement.1 he with
      ⟨_, _, rfl⟩ | ⟨_, _, _, rfl⟩ | ⟨_, _, _, rfl⟩ | ⟨_, rfl⟩ | ⟨_, rfl⟩
    · exact Or.inl rfl
    · exact Or.inl rfl
    · exact Or.inl rfl
    · exact Or.inl rfl
    · exact Or.inr rfl

theorem part_of_mem_valueEdits {x : Topic × ValueId} (he : e ∈ valueEdits g x) :
    e.part? = some .values ∨ e.part? = none := by
  rcases List.mem_cons.1 he with rfl | he
  · exact Or.inl rfl
  rcases List.mem_append.1 he with he | he
  · obtain ⟨type, _, he⟩ := List.mem_flatMap.1 he
    obtain ⟨c, _, rfl⟩ := mem_edits_readValueType.1 he
    exact Or.inl rfl
  · obtain ⟨s, _, he⟩ := List.mem_flatMap.1 he
    rcases mem_edits_readValueStatement.1 he with ⟨_, _, rfl⟩ | ⟨_, rfl⟩
    · exact Or.inl rfl
    · exact Or.inr rfl

/-- A stage changes the part of the graph that it is concerned with, and no other. -/
theorem part_of_mem_stageEdits (hp : g.properties = []) (hv : g.values = []) {part : Part}
    (he : e ∈ stageEdits g topics part) : e.part? = some part ∨ e.part? = none := by
  cases part with
  | classes =>
      rw [stageEdits_classes] at he
      obtain ⟨t, _, he⟩ := List.mem_flatMap.1 he
      exact part_of_mem_classEdits he
  | properties =>
      rw [stageEdits_properties hp] at he
      obtain ⟨x, _, he⟩ := List.mem_flatMap.1 he
      exact part_of_mem_propertyEdits he
  | values =>
      rw [stageEdits_values hv] at he
      obtain ⟨x, _, he⟩ := List.mem_flatMap.1 he
      exact part_of_mem_valueEdits he

theorem filterMap_stageEdits_of_ne {α : Type} (hp : g.properties = []) (hv : g.values = [])
    {part part' : Part} (hne : part' ≠ part) {f : Edit → Option α}
    (hf : ∀ e, e.part? ≠ some part → f e = none) :
    (stageEdits g topics part').filterMap f = [] := by
  refine List.filterMap_eq_nil_iff.2 fun e he => hf e ?_
  rcases part_of_mem_stageEdits hp hv he with h | h
  · rw [h]
    exact fun heq => hne (Option.some.inj heq)
  · rw [h]
    exact fun heq => absurd heq (by simp)

/-- What is looked for in one part only is to be found in the edits of its stage. -/
theorem filterMap_allEdits {α : Type} (hp : g.properties = []) (hv : g.values = []) {part : Part}
    {f : Edit → Option α} (hf : ∀ e, e.part? ≠ some part → f e = none) :
    (allEdits g topics).filterMap f = (stageEdits g topics part).filterMap f := by
  have hother : ∀ part', part' ≠ part → (stageEdits g topics part').filterMap f = [] :=
    fun _ hne => filterMap_stageEdits_of_ne hp hv hne hf
  rw [allEdits, List.filterMap_append, List.filterMap_append]
  cases part with
  | classes =>
      rw [hother .properties (by decide), hother .values (by decide), List.append_nil,
        List.append_nil]
  | properties =>
      rw [hother .classes (by decide), hother .values (by decide), List.nil_append,
        List.append_nil]
  | values =>
      rw [hother .classes (by decide), hother .properties (by decide)]
      rfl

theorem part_of_newProperty? (e : Edit) (he : e.part? ≠ some .properties) :
    e.newProperty? = none := by
  cases e with
  | addProperty iri => exact absurd rfl he
  | _ => rfl

theorem part_of_newValue? (e : Edit) (he : e.part? ≠ some .values) : e.newValue? = none := by
  cases e with
  | addValue iri => exact absurd rfl he
  | _ => rfl

theorem mem_allEdits (hp : g.properties = []) (hv : g.values = []) {part : Part}
    (he : e.part? = some part) : e ∈ allEdits g topics ↔ e ∈ stageEdits g topics part := by
  have hf : (allEdits g topics).filterMap (fun e' => if e' = e then some e' else none) =
      (stageEdits g topics part).filterMap fun e' => if e' = e then some e' else none := by
    refine filterMap_allEdits hp hv fun e' he' => if_neg ?_
    rintro rfl
    exact he' he
  have hmem : ∀ es : List Edit, e ∈ es.filterMap (fun e' => if e' = e then some e' else none) ↔
      e ∈ es := by
    intro es
    simp
  rw [← hmem, hf, hmem]

/-! ## Every edit fits -/

theorem Edit.Fits.edit (h : e.Fits g) (e' : Edit) : e.Fits (g.edit e') := by
  have hids : ∀ {c}, c ∈ g.ids → c ∈ (g.edit e').ids := by
    intro c hc
    rw [Graph.ids_edit]
    exact hc
  have hprops := Graph.length_properties_edit g e'
  have hvalues := Graph.length_values_edit g e'
  cases e with
  | commentClass c text => exact hids h
  | addParent c p => exact ⟨hids h.1, hids h.2⟩
  | addSuccessor c d => exact ⟨hids h.1, hids h.2⟩
  | mark c => exact hids h
  | commentProperty p text => exact Nat.lt_of_lt_of_le h hprops
  | addRange p c => exact ⟨Nat.lt_of_lt_of_le h.1 hprops, hids h.2⟩
  | addPropertySuccessor p t => exact Nat.lt_of_lt_of_le h hprops
  | bind b => exact ⟨hids h.1, Nat.lt_of_lt_of_le h.2 hprops⟩
  | commentValue v text => exact Nat.lt_of_lt_of_le h hvalues
  | addMember c v => exact ⟨hids h.1, Nat.lt_of_lt_of_le h.2 hvalues⟩
  | _ => exact trivial

theorem accepts_of_fits {es : List Edit} (h : ∀ e ∈ es, e.Fits g) : g.Accepts es := by
  induction es generalizing g with
  | nil => exact trivial
  | cons e es ih =>
      exact ⟨h e List.mem_cons_self, ih fun e' he' => (h e' (List.mem_cons_of_mem e he')).edit e⟩

/-- Topics that are numbered on from what is there, each number added before it is used. -/
theorem accepts_zipIdx (len : Graph → Nat) {f : Topic × Nat → List Edit} {P : Graph → Prop}
    (hf : ∀ g t, P g → g.Accepts (f (t, len g)) ∧ P (g.edits (f (t, len g))) ∧
      len (g.edits (f (t, len g))) = len g + 1) (ts : List Topic) :
    ∀ g, P g → g.Accepts ((ts.zipIdx (len g)).flatMap f) := by
  induction ts with
  | nil => exact fun g _ => trivial
  | cons t ts ih =>
      intro g hg
      obtain ⟨hfirst, hg', hlen⟩ := hf g t hg
      rw [List.zipIdx_cons, List.flatMap_cons, Graph.accepts_append, ← hlen]
      exact ⟨hfirst, ih _ hg'⟩

theorem fits_of_mem_classEdits {D : Graph} (hg : g.classIris = D.classIris)
    (he : e ∈ classEdits D t) : e.Fits g := by
  obtain ⟨s, _, he⟩ := List.mem_flatMap.1 he
  obtain ⟨c, hc, h⟩ := mem_edits_readClassStatement.1 he
  have hids : ∀ {d}, d ∈ D.ids → d ∈ g.ids := fun hd => Graph.ids_congr hg ▸ hd
  have hcg := hids (Graph.mem_ids_of_find? hc)
  rcases h with ⟨_, _, rfl⟩ | ⟨_, _, hp, rfl⟩ | ⟨_, _, hd, rfl⟩ | ⟨_, rfl⟩ | ⟨_, rfl⟩
  · exact hcg
  · exact ⟨hcg, hids (mem_ids_of_named? hp)⟩
  · exact ⟨hcg, hids (mem_ids_of_named? hd)⟩
  · exact hcg
  · exact trivial

theorem newProperty?_propertyEdits (x : Topic × PropertyId) :
    (propertyEdits g x).filterMap Edit.newProperty? = [x.1.subject] := by
  have hrest : (x.1.statements.flatMap fun s => (readPropertyStatement g x.2 s).edits).filterMap
      Edit.newProperty? = [] := by
    refine List.filterMap_eq_nil_iff.2 fun e he => ?_
    obtain ⟨s, _, he⟩ := List.mem_flatMap.1 he
    rcases mem_edits_readPropertyStatement.1 he with
      ⟨_, _, rfl⟩ | ⟨_, _, _, rfl⟩ | ⟨_, _, _, rfl⟩ | ⟨_, rfl⟩ | ⟨_, rfl⟩ <;> rfl
  rw [propertyEdits, List.filterMap_cons, hrest]
  rfl

theorem newValue?_valueEdits (x : Topic × ValueId) :
    (valueEdits g x).filterMap Edit.newValue? = [x.1.subject] := by
  have hrest : (((x.1.declaredTypes.filter (!·.isMetaType)).flatMap fun type =>
        (readValueType g x.2 x.1.subject type).edits)
      ++ x.1.statements.flatMap fun s => (readValueStatement x.2
        ((g.find? x.1.subject).isSome || x.1.isProperty) s).edits).filterMap
          Edit.newValue? = [] := by
    refine List.filterMap_eq_nil_iff.2 fun e he => ?_
    rcases List.mem_append.1 he with he | he
    · obtain ⟨type, _, he⟩ := List.mem_flatMap.1 he
      obtain ⟨c, _, rfl⟩ := mem_edits_readValueType.1 he
      rfl
    · obtain ⟨s, _, he⟩ := List.mem_flatMap.1 he
      rcases mem_edits_readValueStatement.1 he with ⟨_, _, rfl⟩ | ⟨_, rfl⟩ <;> rfl
  rw [valueEdits, List.filterMap_cons, hrest]
  rfl

/-- The edits of a topic that describes a property fit, and add one property. -/
theorem accepts_propertyEdits {D : Graph} (hg : g.classIris = D.classIris) (t : Topic) :
    g.Accepts (propertyEdits D (t, g.properties.length)) ∧
      (g.edits (propertyEdits D (t, g.properties.length))).classIris = D.classIris ∧
      (g.edits (propertyEdits D (t, g.properties.length))).properties.length =
        g.properties.length + 1 := by
  have hids : ∀ {d}, d ∈ D.ids → d ∈ (g.edit (.addProperty t.subject)).ids := by
    intro d hd
    rw [Graph.ids_edit, Graph.ids_congr hg]
    exact hd
  have hlt : g.properties.length < (g.edit (.addProperty t.subject)).properties.length := by
    simp [Graph.edit, Graph.addProperty]
  have haccepts : g.Accepts (propertyEdits D (t, g.properties.length)) := by
    refine ⟨trivial, accepts_of_fits fun e he => ?_⟩
    obtain ⟨s, _, he⟩ := List.mem_flatMap.1 he
    rcases mem_edits_readPropertyStatement.1 he with
      ⟨_, _, rfl⟩ | ⟨_, _, hc, rfl⟩ | ⟨_, _, hc, rfl⟩ | ⟨_, rfl⟩ | ⟨_, rfl⟩
    · exact hlt
    · exact ⟨hlt, hids (mem_ids_of_named? hc)⟩
    · exact ⟨hids (mem_ids_of_named? hc), hlt⟩
    · exact hlt
    · exact trivial
  refine ⟨haccepts, (Graph.classIris_edits g _).trans hg, ?_⟩
  rw [haccepts.length_properties, newProperty?_propertyEdits]
  rfl

/-- The edits of a topic that describes an enumeration value fit, and add one value. -/
theorem accepts_valueEdits {D : Graph} (hg : g.classIris = D.classIris) (t : Topic) :
    g.Accepts (valueEdits D (t, g.values.length)) ∧
      (g.edits (valueEdits D (t, g.values.length))).classIris = D.classIris ∧
      (g.edits (valueEdits D (t, g.values.length))).values.length = g.values.length + 1 := by
  have hids : ∀ {d}, d ∈ D.ids → d ∈ (g.edit (.addValue t.subject)).ids := by
    intro d hd
    rw [Graph.ids_edit, Graph.ids_congr hg]
    exact hd
  have hlt : g.values.length < (g.edit (.addValue t.subject)).values.length := by
    simp [Graph.edit, Graph.addValue]
  have haccepts : g.Accepts (valueEdits D (t, g.values.length)) := by
    refine ⟨trivial, accepts_of_fits fun e he => ?_⟩
    rcases List.mem_append.1 he with he | he
    · obtain ⟨type, _, he⟩ := List.mem_flatMap.1 he
      obtain ⟨c, hc, rfl⟩ := mem_edits_readValueType.1 he
      exact ⟨hids (Graph.mem_ids_of_find? hc), hlt⟩
    · obtain ⟨s, _, he⟩ := List.mem_flatMap.1 he
      rcases mem_edits_readValueStatement.1 he with ⟨_, _, rfl⟩ | ⟨_, rfl⟩
      · exact hlt
      · exact trivial
  refine ⟨haccepts, (Graph.classIris_edits g _).trans hg, ?_⟩
  rw [haccepts.length_values, newValue?_valueEdits]
  rfl

theorem accepts_classes (D : Graph) (topics : List Topic) :
    D.Accepts (stageEdits D topics .classes) := by
  rw [stageEdits_classes]
  refine accepts_of_fits fun e he => ?_
  obtain ⟨t, _, he⟩ := List.mem_flatMap.1 he
  exact fits_of_mem_classEdits rfl he

section

variable {D : Graph} (hp : D.properties = []) (hv : D.values = [])

include hp hv

/-- There are no properties before their stage. -/
theorem length_properties_classes (topics : List Topic) :
    (D.edits (stageEdits D topics .classes)).properties.length = 0 := by
  rw [(accepts_classes D topics).length_properties, hp,
    filterMap_stageEdits_of_ne hp hv (by decide) part_of_newProperty?]
  rfl

theorem accepts_properties (topics : List Topic) :
    D.Accepts (stageEdits D topics .classes ++ stageEdits D topics .properties) := by
  refine (Graph.accepts_append _ _ D).2 ⟨accepts_classes D topics, ?_⟩
  have h := accepts_zipIdx (fun g => g.properties.length)
    (P := fun g => g.classIris = D.classIris) (fun g t hg => accepts_propertyEdits hg t)
    (topics.filter Topic.isProperty) _ (Graph.classIris_edits D (stageEdits D topics .classes))
  rwa [length_properties_classes hp hv, ← stageEdits_properties hp] at h

/-- There are no enumeration values before their stage. -/
theorem length_values_properties (topics : List Topic) :
    (D.edits (stageEdits D topics .classes ++ stageEdits D topics .properties)).values.length =
      0 := by
  have hnone : ∀ part, part ≠ .values →
      (stageEdits D topics part).filterMap Edit.newValue? = [] := by
    intro part hne
    exact filterMap_stageEdits_of_ne hp hv hne part_of_newValue?
  rw [(accepts_properties hp hv topics).length_values, hv, List.filterMap_append,
    hnone .classes (by decide), hnone .properties (by decide)]
  rfl

/-- The edits of all stages fit, one after the other, on the graph that they were read in. -/
theorem accepts_allEdits (topics : List Topic) : D.Accepts (allEdits D topics) := by
  refine (Graph.accepts_append _ _ D).2 ⟨accepts_properties hp hv topics, ?_⟩
  have h := accepts_zipIdx (fun g => g.values.length)
    (P := fun g => g.classIris = D.classIris) (fun g t hg => accepts_valueEdits hg t)
    (topics.filter Topic.hasEnumType) _ (Graph.classIris_edits D (stageEdits D topics .classes
      ++ stageEdits D topics .properties))
  rwa [length_values_properties hp hv, ← stageEdits_values hv] at h

/-! ## Every stage reads in the declared graph -/

theorem readProperties_classes (topics : List Topic) :
    readProperties (D.edits (stageEdits D topics .classes)) topics = readProperties D topics := by
  refine readProperties_congr (Graph.classIris_edits D _) ?_ _
  rw [length_properties_classes hp hv, hp]
  rfl

theorem readValues_properties (topics : List Topic) :
    readValues ((D.edits (stageEdits D topics .classes)).edits (stageEdits D topics .properties))
      topics = readValues D topics := by
  rw [← Graph.edits_append]
  refine readValues_congr (Graph.classIris_edits D _) ?_ _
  rw [length_values_properties hp hv, hv]
  rfl

end

/-! ## The run of all stages -/

/-- What the stages read in the graph of their time they could read in the declared graph. -/
theorem assemble_eq_run {ss : List Statement} {D : Graph} (hD : D = declaredGraph (topicsOf ss)) :
    assemble (topicsOf ss) = (do
      let b ← (Build.run { graph := D, findings := [] } (readClasses D (topicsOf ss))).toExcept
      (D.edits (stageEdits D (topicsOf ss) .classes)).validate
      let b ← (b.run (readProperties D (topicsOf ss))).toExcept
      (b.run (readValues D (topicsOf ss))).toExcept) := by
  have hdeclares := declares_declaredGraph ss
  rw [← hD] at hdeclares
  have hstart : Build.start (topicsOf ss) = { graph := D, findings := [] } := by
    rw [Build.start, hD]
  rw [assemble, hstart]
  refine bind_congr_ok fun b₁ hb₁ => ?_
  obtain ⟨_, rfl⟩ := run_eq_ok_iff.1 hb₁
  have hgraph₁ : ((((readClasses D (topicsOf ss)).flatMap Reading.edits).foldl Build.apply
      { graph := D, findings := [] }).graph) = D.edits (stageEdits D (topicsOf ss) .classes) :=
    Build.graph_foldl _ _
  rw [Build.bindProperties, hgraph₁, readProperties_classes hdeclares.properties_eq
    hdeclares.values_eq]
  refine bind_congr_ok fun _ _ => bind_congr_ok fun b₂ hb₂ => ?_
  obtain ⟨_, rfl⟩ := run_eq_ok_iff.1 hb₂
  have hstage₂ : (readProperties D (topicsOf ss)).flatMap Reading.edits =
      stageEdits D (topicsOf ss) .properties := rfl
  rw [Build.bindValues, Build.graph_foldl, hgraph₁, hstage₂, readValues_properties
    hdeclares.properties_eq hdeclares.values_eq]

/-- **An assembly that succeeds is one run of edits.** It succeeds if and only if no stage has a
    reading refused, where all stages read in the graph of the declared classes, and the linked
    classes are valid. -/
theorem assemble_eq_ok_iff {ss : List Statement} {b : Build} {D : Graph}
    (hD : D = declaredGraph (topicsOf ss)) : assemble (topicsOf ss) = .ok b ↔
      (∀ part : Part, ∀ r ∈ part.readings D (topicsOf ss), r.Ok) ∧
        (D.edits (stageEdits D (topicsOf ss) .classes)).validate = .ok () ∧
        b = (allEdits D (topicsOf ss)).foldl Build.apply { graph := D, findings := [] } := by
  rw [assemble_eq_run hD]
  simp only [bind_eq_ok_iff, run_eq_ok_iff, allEdits, List.foldl_append]
  constructor
  · rintro ⟨b₁, ⟨hok₁, rfl⟩, _, hvalid, b₂, ⟨hok₂, rfl⟩, hok₃, rfl⟩
    refine ⟨fun part => ?_, hvalid, rfl⟩
    cases part with
    | classes => exact hok₁
    | properties => exact hok₂
    | values => exact hok₃
  · rintro ⟨hok, hvalid, rfl⟩
    exact ⟨_, ⟨hok .classes, rfl⟩, (), hvalid, _, ⟨hok .properties, rfl⟩, hok .values, rfl⟩

end Ontotype

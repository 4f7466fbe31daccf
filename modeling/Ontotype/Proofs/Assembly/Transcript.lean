import Ontotype.Proofs.Compile

set_option autoImplicit false

/-! # A transcript of the statements

An assembly that succeeds has read every statement, and has found every class that a statement
names. So nothing that is said is lost: what the graph knows of a class, a property or an
enumeration value is, thing by thing, what the statements say about a subject
(`transcript_of_assemble`). The portrait of the statements (`Portrays`) relates things that the
graph has; here the other direction is added, that the graph has whatever the statements relate. -/

namespace Ontotype

open Vocabulary

variable {edition : Edition} {ss : List Statement} {g : Graph} {a b : Iri} {c d : ClassId}
  {p : PropertyId} {v : ValueId}

/-! ## What is said of one subject -/

/-- The text of the last comment that a subject is given. -/
def lastComment? (ss : List Statement) (a : Iri) : Option String :=
  (ss.filter fun s => s.subject = a ∧ s.kind = .comment).getLast?.bind Statement.text?

/-- What is to be used instead of a subject, in order. -/
def supersedingTerms (ss : List Statement) (a : Iri) : List Term :=
  (ss.filter fun s => s.subject = a ∧ s.kind = .supersededBy).map Statement.object

/-- The classes that have a property, one for each binding. -/
def Graph.domains (g : Graph) (p : PropertyId) : List ClassId :=
  (g.bindings.filter (·.property = p)).map Binding.owner

/-- The class `c` is what the statements say about its IRI. Comments and successors are those of
    subjects that describe a class; the builtin classes and the union need no description. -/
structure ClassTranscript (edition : Edition) (ss : List Statement) (g : Graph) (c : ClassId) :
    Prop where
  builtin : g.kind c = .builtin ↔ (∃ b ∈ builtins, edition.term b.1 = g.iri c) ∨
    g.iri c ∉ seedIris edition ∧ ∃ b, Says ss (g.iri c) .type b ∧ b.isSchema "DataType" = true
  union : g.kind c = .dataTypeUnion ↔ g.iri c = edition.term "DataType"
  aliases : (g.entry c).aliases = (declaredEntry edition ss (g.iri c)).aliases
  marked : (g.entry c).marked = true ↔ g.kind c ≠ .ordinary ∨ Says ss (g.iri c) .type rdfsClass
  comment : DescribesClass ss (g.iri c) → (g.entry c).comment = lastComment? ss (g.iri c)
  noComment : ¬ DescribesClass ss (g.iri c) → (g.entry c).comment = none
  nodup_parents : (g.parents c).Nodup
  parents : ∀ b, b ∈ (g.parents c).map g.iri ↔ SaysBelow ss (g.iri c) b
  nodup_children : (g.children c).Nodup
  children : ∀ d, d ∈ g.children c ↔ c ∈ g.parents d
  nodup_successors : (g.successors c).Nodup
  successors : ∀ b, b ∈ (g.successors c).map g.iri ↔
    DescribesClass ss (g.iri c) ∧ Says ss (g.iri c) .supersededBy b
  unionMembers : ∀ d, d ∈ g.unionMembers c ↔
    g.kind c = .dataTypeUnion ∧ d ∈ g.ids ∧ g.kind d = .builtin

/-- The property `p` is what the statements say about its IRI. -/
structure PropertyTranscript (ss : List Statement) (g : Graph) (p : PropertyId) : Prop where
  comment : (g.property p).comment = lastComment? ss (g.property p).iri
  nodup_ranges : (g.property p).ranges.Nodup
  ranges : ∀ b, b ∈ (g.property p).ranges.map g.iri ↔
    Says ss (g.property p).iri .rangeIncludes b
  nodup_domains : (g.domains p).Nodup
  domains : ∀ b, b ∈ (g.domains p).map g.iri ↔ Says ss (g.property p).iri .domainIncludes b
  keys : ∀ b ∈ g.bindings, b.property = p → b.key = (g.property p).iri
  successors : (g.property p).successors = supersedingTerms ss (g.property p).iri
  deprecated : (g.property p).isDeprecated = true ↔
    ∃ s ∈ ss, s.subject = (g.property p).iri ∧ s.kind = .supersededBy

/-- The enumeration value `v` is what the statements say about its IRI. -/
structure ValueTranscript (ss : List Statement) (g : Graph) (v : ValueId) : Prop where
  comment : (g.value v).comment = lastComment? ss (g.value v).iri
  nodup_owners : (g.ownersOf v).Nodup
  owners : ∀ b, b ∈ (g.ownersOf v).map g.iri ↔
    Says ss (g.value v).iri .type b ∧ b.isMetaType = false
  members : ∀ c, v ∈ g.valuesOf c ↔ c ∈ g.ownersOf v

/-- The graph has one class, property or enumeration value for each subject that describes one,
    besides the builtin classes and their union, and each is what the statements say about it. -/
structure Transcript (edition : Edition) (ss : List Statement) (g : Graph) : Prop where
  nodup_classIris : g.classIris.Nodup
  mem_classIris : ∀ a, a ∈ g.classIris ↔ a ∈ seedIris edition ∨ (∃ s ∈ ss, s.subject = a) ∧
    (Says ss a .type rdfsClass ∨ (∃ b, Says ss a .type b ∧ b.isSchema "DataType" = true) ∨
      (∃ s ∈ ss, s.subject = a ∧ s.kind = .subClassOf) ∨ ∃ b, SaysBelow ss b a)
  classes : ∀ c ∈ g.ids, ClassTranscript edition ss g c
  nodup_propertyIris : g.propertyIris.Nodup
  mem_propertyIris : ∀ a, a ∈ g.propertyIris ↔ Says ss a .type rdfProperty
  properties : ∀ p < g.properties.length, PropertyTranscript ss g p
  nodup_valueIris : g.valueIris.Nodup
  mem_valueIris : ∀ a, a ∈ g.valueIris ↔ ∃ b, Says ss a .type b ∧ b.isMetaType = false
  values : ∀ v < g.values.length, ValueTranscript ss g v

/-! ## Comments -/

theorem getLast?_filterMap {α β : Type} {f : α → Option β} {xs : List α}
    (h : ∀ x ∈ xs, (f x).isSome = true) : (xs.filterMap f).getLast? = xs.getLast?.bind f := by
  rcases List.eq_nil_or_concat' xs with rfl | ⟨before, x, rfl⟩
  · rfl
  · obtain ⟨y, hy⟩ := Option.isSome_iff_exists.1
      (h x (List.mem_append_right _ (List.mem_singleton_self x)))
    rw [List.filterMap_append, List.filterMap_cons, hy, List.filterMap_nil, List.getLast?_concat,
      List.getLast?_concat, Option.bind_some, hy]

theorem Statement.text?_of_kind_ne {s : Statement} (h : s.kind ≠ .comment) : s.text? = none := by
  rw [text?]
  split
  · next hkind _ => exact absurd hkind h
  · rfl

theorem Statement.HasText.isSome_text? {s : Statement} (h : s.HasText) (hkind : s.kind = .comment) :
    s.text?.isSome = true := by
  have hliteral := h hkind
  rw [text?, hkind]
  cases hobject : s.object with
  | literal value language => rfl
  | _ =>
      rw [hobject] at hliteral
      exact absurd hliteral (by simp [Term.isLiteral])

/-- Where all comments are texts, the last text is that of the last comment. -/
theorem getLast?_texts (h : ∀ s ∈ ss, s.subject = a → s.HasText) :
    (texts ss a).getLast? = lastComment? ss a := by
  have hfilter : texts ss a = (ss.filter fun s => s.subject = a ∧ s.kind = .comment).filterMap
      Statement.text? := by
    rw [texts, topicAbout, List.filterMap_filter, List.filterMap_filter]
    refine List.filterMap_congr fun s _ => ?_
    by_cases hkind : s.kind = .comment
    · simp [hkind]
    · simp [hkind, Statement.text?_of_kind_ne hkind]
  rw [hfilter, lastComment?]
  refine getLast?_filterMap fun s hs => ?_
  obtain ⟨hs, hsubject, hkind⟩ := by simpa using hs
  exact (h s hs hsubject).isSome_text? hkind

theorem classTexts_of_describesClass (h : DescribesClass ss a) : classTexts ss a = texts ss a :=
  if_pos h

theorem classTexts_of_not_describesClass (h : ¬ DescribesClass ss a) : classTexts ss a = [] :=
  if_neg h

theorem successorTerms_eq (ss : List Statement) (a : Iri) :
    successorTerms ss a = supersedingTerms ss a := by
  rw [successorTerms, supersedingTerms, topicAbout, List.filterMap_filter, ← List.filterMap_eq_map,
    List.filterMap_filter]
  refine List.filterMap_congr fun s _ => ?_
  by_cases hkind : s.kind = .supersededBy <;> simp [Statement.successor?, hkind]

/-! ## Ranges are added once -/

namespace Graph

/-- No property has a class among its ranges twice. -/
def RangesOnce (g : Graph) : Prop := ∀ p, (g.property p).ranges.Nodup

theorem RangesOnce.edit (h : g.RangesOnce) (e : Edit) (he : e.Fits g) : (g.edit e).RangesOnce := by
  intro p
  cases e with
  | addProperty iri =>
      obtain ⟨_, ha⟩ := g.property_addProperty iri p
      rw [Graph.edit, ha]
      exact h p
  | addRange q c =>
      by_cases hqp : q = p
      · subst hqp
        rw [edit_addRange, property_modifyProperty_self he.1]
        split
        · exact h q
        · next hnew => exact List.nodup_append_comm.1 (List.nodup_cons.2 ⟨hnew, h q⟩)
      · rw [edit_addRange, property_modifyProperty_of_ne hqp]
        exact h p
  | commentProperty q text =>
      by_cases hqp : q = p
      · subst hqp
        rw [Graph.edit, setPropertyComment, property_modifyProperty_self he]
        exact h q
      · rw [Graph.edit, setPropertyComment, property_modifyProperty_of_ne hqp]
        exact h p
  | addPropertySuccessor q t =>
      by_cases hqp : q = p
      · subst hqp
        rw [Graph.edit, addPropertySuccessor, property_modifyProperty_self he]
        exact h q
      · rw [Graph.edit, addPropertySuccessor, property_modifyProperty_of_ne hqp]
        exact h p
  | bind b => rw [edit_bind]; exact h p
  | _ => exact h p

end Graph

theorem rangesOnce_assembledGraph (ss : List Statement) : (assembledGraph ss).RangesOnce := by
  have hD := declares_declaredGraph ss
  refine (hD.accepts (topicsOf ss)).preserves (fun _ e he hg => hg.edit e he) fun p => ?_
  rw [Graph.property, hD.properties_eq]
  exact List.nodup_nil

/-! ## What is named is known -/

namespace Readable

theorem known_of_supersededBy (h : Readable edition ss) (hclass : DescribesClass ss a)
    (hab : Says ss a .supersededBy b) : KnownClass edition ss b := by
  obtain ⟨s, hs, rfl, hkind, hobject⟩ := hab
  obtain ⟨b', hobject', hknown⟩ := (h.classes s hs hclass).2 (Or.inr hkind)
  rwa [Option.some.inj (hobject.symm.trans hobject')]

theorem known_of_property (h : Readable edition ss) (hproperty : Says ss a .type rdfProperty)
    {k : Predicate} (hk : k = .rangeIncludes ∨ k = .domainIncludes) (hab : Says ss a k b) :
    KnownClass edition ss b := by
  obtain ⟨s, hs, rfl, rfl, hobject⟩ := hab
  obtain ⟨b', hobject', hknown⟩ := (h.properties s hs hproperty).2 hk
  rwa [Option.some.inj (hobject.symm.trans hobject')]

end Readable

/-- Classes are the ones that are said if they are so among the classes of the graph, and no others
    are said. -/
theorem Graph.mem_map_iri_iff {cs : List ClassId} {P : Iri → Prop} (hids : ∀ d ∈ cs, d ∈ g.ids)
    (hcs : ∀ d ∈ g.ids, d ∈ cs ↔ P (g.iri d)) (hknown : ∀ b, P b → b ∈ g.classIris) (b : Iri) :
    b ∈ cs.map g.iri ↔ P b := by
  rw [List.mem_map]
  constructor
  · rintro ⟨d, hd, rfl⟩
    exact (hcs d (hids d hd)).1 hd
  · intro hb
    obtain ⟨d, hd, rfl⟩ := Graph.mem_classIris.1 (hknown b hb)
    exact ⟨d, (hcs d hd).2 hb, rfl⟩

theorem Graph.mem_domains : c ∈ g.domains p ↔ g.Bound c p := by
  simp only [domains, List.mem_map, List.mem_filter, decide_eq_true_iff, Bound, and_assoc]
  exact exists_congr fun b => and_congr_right fun _ => and_comm

theorem Graph.BoundOnce.nodup_domains (h : g.BoundOnce) (p : PropertyId) : (g.domains p).Nodup := by
  rw [domains, List.nodup_iff_pairwise_ne, List.pairwise_map]
  refine (List.Pairwise.filter _ h).imp_of_mem fun {b b'} hb hb' honce howner => honce ⟨howner, ?_⟩
  rw [of_decide_eq_true (List.mem_filter.1 hb).2, of_decide_eq_true (List.mem_filter.1 hb').2]

/-! ## The transcript -/

namespace Portrays

variable (hp : Portrays edition ss g) (hread : Readable edition ss)

include hp hread

theorem classTranscript (hc : c ∈ g.ids) : ClassTranscript edition ss g c where
  builtin := by rw [hp.kind c hc, kind_declaredEntry_builtin]
  union := by rw [hp.kind c hc, kind_declaredEntry_union]
  aliases := hp.aliases c hc
  marked := by rw [hp.marked c hc, hp.kind c hc]
  comment hclass := by
      rw [hp.comment c hc, classTexts_of_describesClass hclass]
      exact getLast?_texts fun s hs hsubject => (hread.classes s hs (hsubject ▸ hclass)).1
  noComment hclass := by
      rw [hp.comment c hc, classTexts_of_not_describesClass hclass]
      rfl
  nodup_parents := g.nodup_parents c
  parents := Graph.mem_map_iri_iff (fun _ hd => (hp.inRange.mem_ids_of_below hd).2)
    (fun d hd => hp.below c hc d hd)
    fun _ hb => (hp.mem_classIris _).2 (known_of_saysBelow hread.classes hb)
  nodup_children := g.superclass.nodup_sources c
  children _ := Graph.mem_parents_iff_mem_children.symm
  nodup_successors := g.successor.nodup_targets c
  successors := Graph.mem_map_iri_iff
    (fun d hd => (hp.inRange.successor (c, d) (Link.mem_targets.1 hd)).2)
    (fun d hd => hp.successor c hc d hd)
    fun _ hb => (hp.mem_classIris _).2 (hread.known_of_supersededBy hb.1 hb.2)
  unionMembers d := by
      constructor
      · intro hd
        have hids := (hp.inRange.unionMember (c, d) (Link.mem_targets.1 hd)).2
        obtain ⟨hunion, hbuiltin⟩ := (hp.unionMember c hc d hids).1 hd
        exact ⟨hunion, hids, hbuiltin⟩
      · rintro ⟨hunion, hids, hbuiltin⟩
        exact (hp.unionMember c hc d hids).2 ⟨hunion, hbuiltin⟩

theorem mem_iris_ranges (hlt : p < g.properties.length) (b : Iri) :
    b ∈ (g.property p).ranges.map g.iri ↔ Says ss (g.property p).iri .rangeIncludes b := by
  have hproperty : Says ss (g.property p).iri .type rdfProperty :=
    (hp.mem_propertyIris _).1 (Graph.mem_propertyIris.2 ⟨p, hlt, rfl⟩)
  exact Graph.mem_map_iri_iff (hp.inRange.range _ (Graph.property_mem hlt))
    (fun c hc => hp.range p hlt c hc)
    (fun _ hb => (hp.mem_classIris _).2 (hread.known_of_property hproperty (Or.inl rfl) hb)) b

theorem propertyTranscript (honce : g.RangesOnce) (hlt : p < g.properties.length) :
    PropertyTranscript ss g p := by
  have hproperty : Says ss (g.property p).iri .type rdfProperty :=
    (hp.mem_propertyIris _).1 (Graph.mem_propertyIris.2 ⟨p, hlt, rfl⟩)
  have hsuccessors := (hp.property_successors p hlt).trans (successorTerms_eq ss _)
  constructor
  case comment =>
    rw [hp.property_comment p hlt]
    exact getLast?_texts fun s hs hsubject => (hread.properties s hs (hsubject ▸ hproperty)).1
  case nodup_ranges => exact honce p
  case ranges => exact hp.mem_iris_ranges hread hlt
  case nodup_domains => exact hp.boundOnce.nodup_domains p
  case domains =>
    refine Graph.mem_map_iri_iff (fun c hc => ?_)
      (fun c hc => Graph.mem_domains.trans (hp.bound c hc p hlt))
      fun _ hb => (hp.mem_classIris _).2 (hread.known_of_property hproperty (Or.inr rfl) hb)
    obtain ⟨b, hb, rfl, _⟩ := Graph.mem_domains.1 hc
    exact (hp.inRange.binding b hb).1
  case keys =>
    rintro b hb rfl
    exact hp.key b hb
  case successors => exact hsuccessors
  case deprecated =>
    rw [PropertyEntry.isDeprecated, hsuccessors, supersedingTerms]
    simp [List.filter_eq_nil_iff]

theorem valueTranscript (hlt : v < g.values.length) : ValueTranscript ss g v := by
  have hvalue : IsValue ss (g.value v).iri :=
    (hp.mem_valueIris _).1 (Graph.mem_valueIris.2 ⟨v, hlt, rfl⟩)
  constructor
  case comment =>
    rw [hp.value_comment v hlt]
    exact getLast?_texts fun s hs hsubject => hread.values s hs (hsubject ▸ hvalue)
  case nodup_owners => exact g.membership.nodup_sources v
  case owners =>
    exact Graph.mem_map_iri_iff
      (fun c hc => (hp.inRange.membership (c, v) (Link.mem_sources.1 hc)).1)
      (fun c hc => Graph.mem_valuesOf_iff_mem_ownersOf.symm.trans (hp.member c hc v hlt))
      fun _ hb => (hp.mem_classIris _).2 (hread.types _ _ hb.1 hb.2)
  case members => exact fun _ => Graph.mem_valuesOf_iff_mem_ownersOf

theorem transcript (honce : g.RangesOnce) : Transcript edition ss g where
  nodup_classIris := hp.nodup_classIris
  mem_classIris _ := (hp.mem_classIris _).trans (or_congr_right describesClass_iff)
  classes _ hc := hp.classTranscript hread hc
  nodup_propertyIris := hp.nodup_propertyIris
  mem_propertyIris := hp.mem_propertyIris
  properties _ hlt := hp.propertyTranscript hread honce hlt
  nodup_valueIris := hp.nodup_valueIris
  mem_valueIris := hp.mem_valueIris
  values _ hlt := hp.valueTranscript hread hlt

end Portrays

/-- **An assembly that succeeds is a transcript of the statements**: it has the classes, properties
    and enumeration values that they describe, each once, and of each it knows what they say about
    it, no less and no more. -/
theorem transcript_of_assemble {b : Build} (h : assemble (topicsOf ss) = .ok b) :
    Transcript (editionOf (topicsOf ss)) ss b.graph := by
  obtain ⟨hread, _⟩ := (exists_assemble_iff ss).1 ⟨b, h⟩
  rw [graph_of_assemble h]
  exact (portrays_assembledGraph ss).transcript hread (rangesOnce_assembledGraph ss)

/-- An ontology in which one subject is a class, a property and an enumeration value, a builtin
    class is described, and ranges are named twice, once by a compact reference. -/
def facetsStatements : List Statement :=
  let term := Edition.https.term
  [{ subject := term "Season", predicate := rdfType, object := .entity rdfsClass },
   { subject := term "Summer", predicate := rdfType, object := .entity (term "Season") },
   { subject := term "Summer", predicate := rdfType, object := .compact "rdf" "Property" },
   { subject := term "Summer", predicate := rdfsSubClassOf, object := .entity (term "Season") },
   { subject := term "Summer", predicate := rdfsComment, object := .literal "The warm one." none },
   { subject := term "Summer", predicate := term "domainIncludes",
     object := .entity (term "Season") },
   { subject := term "Summer", predicate := term "rangeIncludes", object := .entity (term "Date") },
   { subject := term "Summer", predicate := term "rangeIncludes",
     object := .compact "schema" "Date" },
   { subject := term "Date", predicate := rdfType, object := .entity rdfsClass },
   { subject := term "Date", predicate := term "supersededBy",
     object := .entity (term "DateTime") }]

theorem transcript_facetsStatements : ∃ b, assemble (topicsOf facetsStatements) = .ok b ∧
    Transcript (editionOf (topicsOf facetsStatements)) facetsStatements b.graph := by
  have hok : (assemble (topicsOf facetsStatements)).isOk = true := by decide +kernel
  obtain ⟨b, hb⟩ := isOk_iff.1 hok
  exact ⟨b, hb, transcript_of_assemble hb⟩

end Ontotype

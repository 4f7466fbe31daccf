import Ontotype.Proofs.Rdf.Topics

set_option autoImplicit false

/-! # Respelling terms

A term that names an IRI can be spelt in full, as that IRI, whatever it was spelt as before. To
respell statements is to spell all of them so, with the IRIs renamed, or left as they are
(`renaming_id`). A renaming takes the IRIs of schema.org terms to other ones of the same names, and
leaves all other IRIs as they are (`Renaming`). The vocabulary is recognised by the names of its
terms, and the answers to all questions about topics are made of what is recognised and of which
IRIs are equal, so every answer for respelt statements is the answer for the statements, respelt. -/

namespace Ontotype

open Vocabulary

variable {ρ : Iri → Iri} {a b : Iri} {name : String}

/-! ## Renamings -/

/-- Different IRIs stay different, terms keep their names, and what is no term stays. -/
structure Renaming (ρ : Iri → Iri) : Prop where
  injective : Function.Injective ρ
  schemaName? : ∀ a, (ρ a).schemaName? = a.schemaName?
  fixed : ∀ a, a.schemaName? = none → ρ a = a

theorem renaming_id : Renaming id := ⟨fun _ _ h => h, fun _ => rfl, fun _ _ => rfl⟩

/-- The IRIs that a statement names. -/
def Statement.iris (s : Statement) : List Iri := s.subject :: s.predicate :: s.object.iri?.toList

/-- A term that names an IRI, spelt in full with the IRI renamed. -/
def Term.respell (ρ : Iri → Iri) (t : Term) : Term := (t.iri?.map fun a => .entity (ρ a)).getD t

/-- The statement with all IRIs renamed and its object spelt in full. -/
def Statement.respell (ρ : Iri → Iri) (s : Statement) : Statement :=
  { subject := ρ s.subject, predicate := ρ s.predicate, object := s.object.respell ρ }

/-- The topic with all its statements respelt. -/
def Topic.respell (ρ : Iri → Iri) (t : Topic) : Topic :=
  { subject := ρ t.subject, statements := t.statements.map (Statement.respell ρ) }

namespace Term

variable {t : Term}

theorem respell_of_iri? (h : t.iri? = some a) : t.respell ρ = .entity (ρ a) := by
  rw [respell, h]
  rfl

theorem respell_of_iri?_eq_none (h : t.iri? = none) : t.respell ρ = t := by
  rw [respell, h]
  rfl

@[simp] theorem iri?_respell (ρ : Iri → Iri) (t : Term) : (t.respell ρ).iri? = t.iri?.map ρ := by
  cases h : t.iri? with
  | none => rw [respell_of_iri?_eq_none h, h, Option.map_none]
  | some a => rw [respell_of_iri? h, iri?, Option.map_some]

@[simp] theorem isLiteral_respell (ρ : Iri → Iri) (t : Term) :
    (t.respell ρ).isLiteral = t.isLiteral := by
  cases h : t.iri? with
  | none => rw [respell_of_iri?_eq_none h]
  | some a =>
      rw [respell_of_iri? h]
      cases t with
      | literal value language => exact absurd h (by simp [iri?])
      | _ => rfl

theorem respell_congr {ρ' : Iri → Iri} (h : ∀ a ∈ t.iri?, ρ a = ρ' a) :
    t.respell ρ = t.respell ρ' := by
  cases hiri : t.iri? with
  | none => rw [respell_of_iri?_eq_none hiri, respell_of_iri?_eq_none hiri]
  | some a => rw [respell_of_iri? hiri, respell_of_iri? hiri, h a hiri]

end Term

namespace Statement

variable {s : Statement}

@[simp] theorem subject_respell (ρ : Iri → Iri) (s : Statement) :
    (s.respell ρ).subject = ρ s.subject := rfl

@[simp] theorem object_respell (ρ : Iri → Iri) (s : Statement) :
    (s.respell ρ).object = s.object.respell ρ := rfl

theorem mem_iris : a ∈ s.iris ↔ a = s.subject ∨ a = s.predicate ∨ s.object.iri? = some a := by
  rw [iris, List.mem_cons, List.mem_cons, Option.mem_toList]

theorem respell_congr {ρ' : Iri → Iri} (h : ∀ a ∈ s.iris, ρ a = ρ' a) :
    s.respell ρ = s.respell ρ' := by
  rw [respell, respell, h _ (mem_iris.2 (.inl rfl)), h _ (mem_iris.2 (.inr (.inl rfl))),
    Term.respell_congr fun a ha => h a (mem_iris.2 (.inr (.inr ha)))]

theorem mem_iris_respell : a ∈ (s.respell ρ).iris ↔ ∃ b ∈ s.iris, ρ b = a := by
  rw [iris, iris, respell, Term.iri?_respell]
  cases s.object.iri? <;> simp [eq_comm]

end Statement

/-! ## What is recognised -/

namespace Renaming

variable (hρ : Renaming ρ)

include hρ

@[simp] theorem isSchema_rename (a : Iri) (name : String) :
    (ρ a).isSchema name = a.isSchema name := by
  rw [Iri.isSchema, hρ.schemaName?, Iri.isSchema]

/-- To be renamed to an IRI that stays is to be that IRI. -/
theorem eq_fixed_iff (hb : b.schemaName? = none) : ρ a = b ↔ a = b :=
  ⟨fun h => hρ.injective (h.trans (hρ.fixed b hb).symm), fun h => h ▸ hρ.fixed b hb⟩

/-- What reads as no name at all stays. -/
theorem map_default : ρ default = default := hρ.fixed default (by decide +kernel)

theorem eq_rdfsClass_iff : ρ a = rdfsClass ↔ a = rdfsClass := hρ.eq_fixed_iff (by decide +kernel)

theorem eq_rdfProperty_iff : ρ a = rdfProperty ↔ a = rdfProperty :=
  hρ.eq_fixed_iff (by decide +kernel)

theorem isMetaType_rename (a : Iri) : (ρ a).isMetaType = a.isMetaType := by
  rw [Iri.isMetaType, Iri.isMetaType]
  simp only [hρ.eq_rdfsClass_iff, hρ.eq_rdfProperty_iff, hρ.isSchema_rename]

theorem ofIri_rename (a : Iri) : Predicate.ofIri (ρ a) = Predicate.ofIri a := by
  have hcomment : ρ a = rdfsComment ↔ a = rdfsComment := hρ.eq_fixed_iff (by decide +kernel)
  have hsub : ρ a = rdfsSubClassOf ↔ a = rdfsSubClassOf := hρ.eq_fixed_iff (by decide +kernel)
  have htype : ρ a = rdfType ↔ a = rdfType := hρ.eq_fixed_iff (by decide +kernel)
  rw [Predicate.ofIri, Predicate.ofIri]
  simp only [hcomment, hsub, htype, hρ.isSchema_rename]

theorem isClassType_respell (t : Term) : (t.respell ρ).isClassType = t.isClassType := by
  rw [Term.isClassType, Term.iri?_respell, Term.isClassType]
  cases t.iri? with
  | none => rfl
  | some a => simp [hρ.eq_rdfsClass_iff]

theorem kind_respell (s : Statement) : (s.respell ρ).kind = s.kind := hρ.ofIri_rename s.predicate

theorem declaredType?_respell (s : Statement) :
    (s.respell ρ).declaredType? = s.declaredType?.map ρ := by
  rw [Statement.declaredType?, hρ.kind_respell, Statement.declaredType?]
  split
  · exact Term.iri?_respell ρ s.object
  · rfl

end Renaming

/-! ## Topics -/

theorem eraseDups_map_of_injective {α β : Type} [BEq α] [LawfulBEq α] [BEq β] [LawfulBEq β]
    {f : α → β} (hf : Function.Injective f) : (xs : List α) →
    (xs.map f).eraseDups = xs.eraseDups.map f
  | [] => rfl
  | x :: xs => by
      have hrest : (xs.map f).filter (fun y => !y == f x) = (xs.filter fun y => !y == x).map f := by
        rw [List.filter_map]
        refine congrArg (List.map f) (List.filter_congr fun y _ => ?_)
        rw [Function.comp_apply, Bool.eq_iff_iff]
        simp [hf.eq_iff]
      rw [List.map_cons, List.eraseDups_cons, List.eraseDups_cons, hrest,
        eraseDups_map_of_injective hf, List.map_cons]
termination_by xs => xs.length
decreasing_by exact Nat.lt_succ_of_le (List.length_filter_le _ _)

theorem filter_respell {p q : Topic → Bool} (hp : ∀ t, p (t.respell ρ) = q t)
    (topics : List Topic) :
    (topics.map (Topic.respell ρ)).filter p = (topics.filter q).map (Topic.respell ρ) := by
  rw [List.filter_map, show p ∘ Topic.respell ρ = q from funext hp]

namespace Renaming

variable (hρ : Renaming ρ)

include hρ

theorem topicsOf_respell (ss : List Statement) :
    topicsOf (ss.map (Statement.respell ρ)) = (topicsOf ss).map (Topic.respell ρ) := by
  have hsubjects : (ss.map (Statement.respell ρ)).map Statement.subject =
      (ss.map Statement.subject).map ρ := by
    rw [List.map_map, List.map_map]
    rfl
  rw [topicsOf, hsubjects, eraseDups_map_of_injective hρ.injective, List.map_map,
    topicsOf, List.map_map]
  refine List.map_congr_left fun a _ => ?_
  show Topic.mk (ρ a) _ = Topic.mk (ρ a) _
  rw [List.filter_map]
  refine congrArg (fun kept => Topic.mk (ρ a) (kept.map (Statement.respell ρ)))
    (List.filter_congr fun s _ => ?_)
  exact decide_eq_decide.2 hρ.injective.eq_iff

theorem declaredTypes_respell (t : Topic) :
    (t.respell ρ).declaredTypes = t.declaredTypes.map ρ := by
  rw [Topic.declaredTypes, Topic.respell, List.filterMap_map, Topic.declaredTypes,
    ← eraseDups_map_of_injective hρ.injective, List.map_filterMap]
  exact congrArg List.eraseDups (List.filterMap_congr fun s _ => hρ.declaredType?_respell s)

/-- What is asked of the declared types, and answered alike for an IRI and what it is renamed to. -/
theorem any_declaredTypes {p : Iri → Bool} (hp : ∀ a, p (ρ a) = p a) (t : Topic) :
    (t.respell ρ).declaredTypes.any p = t.declaredTypes.any p := by
  rw [hρ.declaredTypes_respell, List.any_map, funext (f := p ∘ ρ) hp]

theorem isClass_respell (t : Topic) : (t.respell ρ).isClass = t.isClass :=
  hρ.any_declaredTypes (fun _ => decide_eq_decide.2 hρ.eq_rdfsClass_iff) t

theorem isProperty_respell (t : Topic) : (t.respell ρ).isProperty = t.isProperty :=
  hρ.any_declaredTypes (fun _ => decide_eq_decide.2 hρ.eq_rdfProperty_iff) t

theorem isDataType_respell (t : Topic) : (t.respell ρ).isDataType = t.isDataType :=
  hρ.any_declaredTypes (fun a => hρ.isSchema_rename a "DataType") t

theorem hasEnumType_respell (t : Topic) : (t.respell ρ).hasEnumType = t.hasEnumType :=
  hρ.any_declaredTypes (fun a => congrArg (!·) (hρ.isMetaType_rename a)) t

theorem hasSubClassOf_respell (t : Topic) : (t.respell ρ).hasSubClassOf = t.hasSubClassOf := by
  rw [Topic.hasSubClassOf, Topic.respell, List.any_map, Topic.hasSubClassOf]
  refine congrArg (List.any t.statements) (funext fun s => ?_)
  rw [Function.comp_apply, hρ.kind_respell]

/-! ## Questions to all topics -/

variable (topics : List Topic)

theorem superclasses_respell : superclasses (topics.map (Topic.respell ρ)) =
    (superclasses topics).map ρ := by
  have hstatements : (topics.map (Topic.respell ρ)).flatMap Topic.statements =
      (topics.flatMap Topic.statements).map (Statement.respell ρ) := by
    rw [List.flatMap_map, List.map_flatMap]
    rfl
  rw [superclasses, hstatements, List.filter_map, List.filterMap_map,
    superclasses, List.map_filterMap]
  simp only [Function.comp_def, hρ.kind_respell, Statement.object_respell,
    hρ.isClassType_respell, Term.iri?_respell]

theorem classTopics_respell : classTopics (topics.map (Topic.respell ρ)) =
    (classTopics topics).map (Topic.respell ρ) := by
  rw [classTopics, hρ.superclasses_respell]
  refine filter_respell (fun t => ?_) topics
  have hsubject : ((superclasses topics).map ρ).contains (t.respell ρ).subject =
      (superclasses topics).contains t.subject := by
    rw [Bool.eq_iff_iff, List.contains_iff_mem, List.contains_iff_mem]
    exact List.mem_map_of_injective hρ.injective
  rw [hρ.isClass_respell, hρ.isDataType_respell, hρ.hasSubClassOf_respell, hsubject]

end Renaming

end Ontotype

import Ontotype.NTriples.Document
import Ontotype.Proofs.Rdf.Respelling
import Mathlib.Data.List.Forall2

set_option autoImplicit false

/-! # Two spellings of a name

An object may name an IRI in full or by a compact reference. Spelling it in full replaces a compact
reference by the IRI that it stands for, and leaves everything else as it is: it is to respell the
object without renaming anything. Two objects that are spelt alike in full name the same IRI, and
what is read as an object names the IRI that it names as a subject. -/

namespace Ontotype

open Vocabulary

/-! ## Terms and statements -/

/-- The term spelt in full, if it names an IRI. -/
def Term.full (t : Term) : Term := (t.iri?.map Term.entity).getD t

/-- The statement with its object spelt in full: respelt, with all IRIs as they are. -/
def Statement.full (s : Statement) : Statement := { s with object := s.object.full }

/-- A compact reference stands for the IRI that its label and its name make. -/
theorem Term.full_compact {label base : String} (h : namespace? label = some base)
    (name : String) : (Term.compact label name).full = .entity ⟨base ++ name⟩ := by
  rw [full, iri?, h]
  rfl

/-! ## Expansion -/

/-- A compact reference may be replaced by the IRI that it stands for. -/
inductive Term.Expands : Term → Term → Prop
  | keep (t : Term) : Expands t t
  | expand {label base : String} (h : namespace? label = some base) (name : String) :
    Expands (.compact label name) (.entity ⟨base ++ name⟩)

/-- The statements are the same up to an expansion of the object. -/
structure Statement.Expands (s s' : Statement) : Prop where
  subject : s'.subject = s.subject
  predicate : s'.predicate = s.predicate
  object : s.object.Expands s'.object

theorem Term.Expands.full_eq {t t' : Term} (h : t.Expands t') : t.full = t'.full := by
  cases h with
  | keep => rfl
  | expand h name => exact full_compact h name

theorem Statement.Expands.full_eq {s s' : Statement} (h : s.Expands s') : s.full = s'.full := by
  rw [full, full, h.subject, h.predicate, h.object.full_eq]

theorem map_full_of_expands {ss ss' : List Statement} (h : List.Forall₂ Statement.Expands ss ss') :
    ss.map Statement.full = ss'.map Statement.full := by
  induction h with
  | nil => rfl
  | cons hs _ ih => rw [List.map_cons, List.map_cons, hs.full_eq, ih]

/-! ## The edition -/

/-- The edition is that of the IRIs, however they are spelt. -/
theorem editionOf_respell_id (ss : List Statement) :
    editionOf (topicsOf (ss.map (Statement.respell id))) = editionOf (topicsOf ss) := by
  have hstatements : ((topicsOf ss).map (Topic.respell id)).flatMap Topic.statements =
      ((topicsOf ss).flatMap Topic.statements).map (Statement.respell id) := by
    rw [List.flatMap_map, List.map_flatMap]
    rfl
  rw [renaming_id.topicsOf_respell, editionOf, hstatements, List.findSome?_map, editionOf]
  have hiri : ∀ s : Statement, (s.respell id).object.iri? = s.object.iri? := fun s =>
    (Term.iri?_respell id s.object).trans (congrFun Option.map_id _)
  simp only [Function.comp_def, hiri]
  rfl

/-! ## Reading -/

namespace NTriples

variable {iri : List Char} {label name : String}

/-- Only a known label makes a compact reference. -/
theorem namespace?_of_compactParts? (h : compactParts? iri = some (label, name)) :
    ∃ base, namespace? label = some base := by
  rw [compactParts?] at h
  split at h
  · split at h
    · next hknown =>
        obtain ⟨rfl, -⟩ := Prod.mk.inj (Option.some.inj h)
        exact Option.ne_none_iff_exists'.1 hknown.2
    · exact absurd h (by simp)
  · exact absurd h (by simp)

/-- An IRI that is read as an object names what it names as a subject. -/
theorem iri?_objectOf (iri : List Char) : (objectOf iri).iri? = some (nameOf iri) := by
  rw [objectOf, nameOf]
  cases h : compactParts? iri with
  | none => rfl
  | some parts =>
      obtain ⟨label, name⟩ := parts
      obtain ⟨base, hbase⟩ := namespace?_of_compactParts? h
      show (namespace? label).map _ = some (((namespace? label).map _).getD _)
      rw [hbase]
      rfl

theorem namespace?_of_objectOf (h : objectOf iri = .compact label name) :
    ∃ base, namespace? label = some base := by
  rw [objectOf] at h
  split at h
  · next hparts =>
      obtain ⟨rfl, rfl⟩ := Term.compact.inj h
      exact namespace?_of_compactParts? hparts
  · exact absurd h (by simp)

end NTriples

end Ontotype

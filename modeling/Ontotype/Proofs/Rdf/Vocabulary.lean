import Ontotype.Rdf.Vocabulary
import Ontotype.Iri.Parts

set_option autoImplicit false

/-! # Schema.org terms

A schema.org term is its name behind the base of one of the two editions, so there are two IRIs for
each name, and an IRI is a term of one edition with one name, or no term (`Iri.term_cases`). -/

namespace Ontotype.Iri

open Vocabulary

variable {iri a : Iri} {edition : Edition} {name : String}

theorem eq_term_of_nameIn? (h : iri.nameIn? edition = some name) : iri = edition.term name := by
  rw [nameIn?, Option.map_eq_some_iff] at h
  obtain ⟨rest, hrest, rfl⟩ := h
  have hlist := Text.stripStart?_eq_some_iff.1 hrest
  have htext : iri.text = edition.base ++ String.ofList rest := by
    rw [← String.toList_inj, hlist, String.toList_append, String.toList_ofList]
  rw [Edition.term, ← htext]

/-- The schema.org term of a name is that of one of the editions. -/
theorem eq_term_of_isSchema (h : iri.isSchema name = true) :
    ∃ edition : Edition, iri = edition.term name := by
  rw [isSchema, schemaName?, beq_iff_eq, Option.or_eq_some_iff] at h
  rcases h with h | ⟨_, h⟩
  · exact ⟨.https, eq_term_of_nameIn? h⟩
  · exact ⟨.http, eq_term_of_nameIn? h⟩

theorem nameIn?_term (edition : Edition) (name : String) :
    (edition.term name).nameIn? edition = some name := by
  have hrest : Text.stripStart? edition.base.toList (edition.term name).text.toList =
      some name.toList :=
    Text.stripStart?_eq_some_iff.2 (String.toList_append ..)
  rw [nameIn?, hrest, Option.map_some, String.ofList_toList]

theorem nameIn?_term_of_ne {edition' : Edition} (h : edition ≠ edition') (name : String) :
    (edition.term name).nameIn? edition' = none := by
  rw [nameIn?, Edition.term, String.toList_append]
  cases edition <;> cases edition' <;> first | rfl | exact absurd rfl h

@[simp] theorem schemaName?_term (edition : Edition) (name : String) :
    (edition.term name).schemaName? = some name := by
  rw [schemaName?]
  cases edition with
  | http => rw [nameIn?_term_of_ne (by decide), nameIn?_term, Option.none_or]
  | https => rw [nameIn?_term, Option.some_or]

@[simp] theorem edition?_term (edition : Edition) (name : String) :
    (edition.term name).edition? = some edition := by
  rw [edition?]
  cases edition with
  | http => rw [nameIn?_term_of_ne (by decide), nameIn?_term]; rfl
  | https => rw [nameIn?_term]; rfl

theorem schemaName?_eq_none_iff :
    a.schemaName? = none ↔ a.nameIn? .https = none ∧ a.nameIn? .http = none :=
  Option.or_eq_none_iff

/-- An IRI is a term of one of the editions, or no term. -/
theorem term_cases (a : Iri) :
    (∃ edition name, a = Edition.term edition name) ∨ a.schemaName? = none := by
  cases hs : a.nameIn? .https with
  | some name => exact .inl ⟨.https, name, eq_term_of_nameIn? hs⟩
  | none =>
      cases hp : a.nameIn? .http with
      | some name => exact .inl ⟨.http, name, eq_term_of_nameIn? hp⟩
      | none => exact .inr (schemaName?_eq_none_iff.2 ⟨hs, hp⟩)

theorem edition?_eq_none (h : a.schemaName? = none) : a.edition? = none := by
  obtain ⟨hs, hp⟩ := schemaName?_eq_none_iff.1 h
  rw [edition?, hs, hp]
  rfl

/-- The classes that declarations refer to by name have that name in both editions. -/
theorem identifier_of_isSchema (hname : name = "Role" ∨ name = "Thing")
    (h : iri.isSchema name = true) : iri.identifier = name := by
  obtain ⟨edition, rfl⟩ := eq_term_of_isSchema h
  rcases hname with rfl | rfl <;> cases edition <;> decide +kernel

end Ontotype.Iri

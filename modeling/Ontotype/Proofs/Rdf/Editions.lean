import Ontotype.Context
import Ontotype.Proofs.Iri.Parts
import Ontotype.Proofs.Rdf.Spelling
import Ontotype.Proofs.Rdf.Vocabulary

set_option autoImplicit false

/-! # The two editions of schema.org terms

A term of the `http:` edition can be moved to the `https:` edition (`Iri.secured`). That is no
renaming, as it makes one term of two, but where only one edition is used it does what exchanging
the editions does (`Iri.exchanged`), and that is one. In the standard context the terms of both
editions have the same names, as long as the name of a term is a single segment of a path. -/

namespace Ontotype

open Vocabulary

namespace Iri

variable {a : Iri} {edition : Edition} {name : String}

/-! ## Moving between editions -/

/-- The term of that name in the `https:` edition. -/
def secured (a : Iri) : Iri := ((a.nameIn? .http).map Edition.https.term).getD a

/-- The term of that name in the other edition. -/
def exchanged (a : Iri) : Iri :=
  ((a.nameIn? .https).map Edition.http.term).getD a.secured

/-- If the IRI is a schema.org term, then of the `http:` edition, and its name is one segment. -/
def IsUnsecured (a : Iri) : Prop :=
  ∀ name ∈ a.schemaName?, a = Edition.http.term name ∧ IsSegment name

instance : Decidable a.IsUnsecured :=
  inferInstanceAs (Decidable (∀ name ∈ a.schemaName?, a = Edition.http.term name ∧ IsSegment name))

@[simp] theorem secured_term (edition : Edition) (name : String) :
    (edition.term name).secured = Edition.https.term name := by
  rw [secured]
  cases edition with
  | http => rw [nameIn?_term]; rfl
  | https => rw [nameIn?_term_of_ne (by decide)]; rfl

theorem secured_of_no_term (h : a.schemaName? = none) : a.secured = a := by
  rw [secured, (schemaName?_eq_none_iff.1 h).2]
  rfl

theorem exchanged_http (name : String) :
    (Edition.http.term name).exchanged = Edition.https.term name := by
  rw [exchanged, nameIn?_term_of_ne (by decide), secured_term]
  rfl

theorem exchanged_https (name : String) :
    (Edition.https.term name).exchanged = Edition.http.term name := by
  rw [exchanged, nameIn?_term]
  rfl

theorem exchanged_of_no_term (h : a.schemaName? = none) : a.exchanged = a := by
  rw [exchanged, (schemaName?_eq_none_iff.1 h).1, secured_of_no_term h]
  rfl

theorem exchanged_exchanged (a : Iri) : a.exchanged.exchanged = a := by
  rcases term_cases a with ⟨edition, name, rfl⟩ | h
  · cases edition with
    | http => rw [exchanged_http, exchanged_https]
    | https => rw [exchanged_https, exchanged_http]
  · rw [exchanged_of_no_term h, exchanged_of_no_term h]

/-- To exchange the editions is a renaming. -/
theorem renaming_exchanged : Renaming exchanged where
  injective := Function.Involutive.injective exchanged_exchanged
  schemaName? a := by
      rcases term_cases a with ⟨edition, name, rfl⟩ | h
      · cases edition with
        | http => rw [exchanged_http, schemaName?_term, schemaName?_term]
        | https => rw [exchanged_https, schemaName?_term, schemaName?_term]
      · rw [exchanged_of_no_term h]
  fixed _ := exchanged_of_no_term

@[simp] theorem schemaName?_secured (a : Iri) : a.secured.schemaName? = a.schemaName? := by
  rcases term_cases a with ⟨edition, name, rfl⟩ | h
  · rw [secured_term, schemaName?_term, schemaName?_term]
  · rw [secured_of_no_term h]

theorem edition?_secured (h : a.secured.edition? = some edition) : edition = .https := by
  rcases term_cases a with ⟨_, name, rfl⟩ | hterm
  · rw [secured_term, edition?_term] at h
    exact (Option.some.inj h).symm
  · rw [secured_of_no_term hterm, edition?_eq_none hterm] at h
    exact absurd h (by simp)

namespace IsUnsecured

variable (h : a.IsUnsecured)

include h

theorem edition?_eq (hedition : a.edition? = some edition) : edition = .http := by
  rcases term_cases a with ⟨edition', name, rfl⟩ | hterm
  · rw [edition?_term] at hedition
    have hhttp := congrArg edition? (h name (schemaName?_term edition' name)).1
    rw [edition?_term, edition?_term] at hhttp
    exact (Option.some.inj (hedition.symm.trans hhttp))
  · rw [edition?_eq_none hterm] at hedition
    exact absurd hedition (by simp)

theorem exchanged_eq : a.exchanged = a.secured := by
  rcases term_cases a with ⟨edition, name, rfl⟩ | hterm
  · rw [(h name (schemaName?_term edition name)).1, exchanged_http, secured_term]
  · rw [exchanged_of_no_term hterm, secured_of_no_term hterm]

end IsUnsecured

/-! ## Names -/

/-- The scheme of an edition. -/
def schemeOf : Edition → String
  | .http => "http"
  | .https => "https"

section

variable (h : IsSegment name)

include h

theorem parts?_term (edition : Edition) : (edition.term name).parts? =
    some { scheme := schemeOf edition, authority := "schema.org", namespacePath := "",
           query := none, localName := name } := by
  have hsplit : splitRest ('/' :: name.toList) = ([], none, name.toList) := by
    have hsegment : splitRest ([] ++ '/' :: name.toList ++ marked '?' none) =
        (trimSlashes [], none, name.toList) := splitRest_segment (by simp) h.free (by simp)
    rwa [List.nil_append, marked, Option.elim_none, List.append_nil] at hsegment
  have hhierarchical : hierarchical? (edition.term name).text.toList =
      some ((schemeOf edition).toList, "schema.org".toList, '/' :: name.toList) := by
    rw [Edition.term, String.toList_append]
    cases edition <;> rfl
  rw [parts?, hhierarchical, Option.map_some]
  simp only [hsplit, String.ofList_toList]
  rfl

theorem localName_term (edition : Edition) :
    (edition.term name).localName = Text.Percent.decode name := by
  rw [localName, parts?_term h]
  simp only [if_neg h.1]

/-- The standard context names the terms of both editions by their names. -/
theorem scopedName_term (edition : Edition) :
    Context.standard.scopedName (edition.term name) = Text.Percent.decode name := by
  -- whether a namespace matches does not depend on the local name
  have hwithin : (Base.ofUrl? "https://schema.org").any (Parts.within
      { scheme := schemeOf edition, authority := "schema.org", namespacePath := "",
        query := none, localName := name }) = true := by
    show (Base.ofUrl? "https://schema.org").any (Parts.within
      { scheme := schemeOf edition, authority := "schema.org", namespacePath := "",
        query := none, localName := "" }) = true
    cases edition <;> decide +kernel
  have hentries : Context.standard.entries = [⟨"", "https://schema.org"⟩] := rfl
  rw [Context.scopedName, parts?_term h, hentries]
  simp only [if_neg h.1, List.find?_cons, hwithin, if_true]

end

variable (h : ∀ name ∈ a.schemaName?, IsSegment name)

include h

theorem localName_secured : a.secured.localName = a.localName := by
  rcases term_cases a with ⟨edition, name, rfl⟩ | hterm
  · have hname := h name (schemaName?_term edition name)
    rw [secured_term, localName_term hname, localName_term hname]
  · rw [secured_of_no_term hterm]

theorem scopedName_secured :
    Context.standard.scopedName a.secured = Context.standard.scopedName a := by
  rcases term_cases a with ⟨edition, name, rfl⟩ | hterm
  · have hname := h name (schemaName?_term edition name)
    rw [secured_term, scopedName_term hname, scopedName_term hname]
  · rw [secured_of_no_term hterm]

end Iri

/-! ## Moved statements -/

/-- The renamed IRI of a term that names one which is renamed. -/
def Term.rename (ρ : Iri → Iri) (t : Term) : Term :=
  match t.iri? with
  | some a => if ρ a = a then t else .entity (ρ a)
  | none => t

/-- The statement with all IRIs renamed. -/
def Statement.rename (ρ : Iri → Iri) (s : Statement) : Statement :=
  { subject := ρ s.subject, predicate := ρ s.predicate, object := s.object.rename ρ }

/-- A term that is not renamed keeps its spelling. In full, every term is spelt as when it is
    respelt. -/
theorem Term.full_rename (ρ : Iri → Iri) (t : Term) : (t.rename ρ).full = t.respell ρ := by
  cases h : t.iri? with
  | none =>
      rw [respell_of_iri?_eq_none h, rename, h]
      exact respell_of_iri?_eq_none h
  | some a =>
      rw [respell_of_iri? h, rename, h]
      dsimp only
      split
      · next heq => exact (respell_of_iri? h).trans (congrArg entity heq.symm)
      · rfl

theorem Statement.full_rename (ρ : Iri → Iri) (s : Statement) :
    (s.rename ρ).full = s.respell ρ :=
  congrArg (Statement.mk (ρ s.subject) (ρ s.predicate)) (s.object.full_rename ρ)

theorem Term.full_respell (ρ : Iri → Iri) (t : Term) : (t.respell ρ).full = t.respell ρ := by
  cases h : t.iri? with
  | none =>
      rw [respell_of_iri?_eq_none h]
      exact respell_of_iri?_eq_none h
  | some a =>
      rw [respell_of_iri? h]
      rfl

theorem Statement.full_respell (ρ : Iri → Iri) (s : Statement) :
    (s.respell ρ).full = s.respell ρ :=
  congrArg (Statement.mk (ρ s.subject) (ρ s.predicate)) (s.object.full_respell ρ)

/-! ## The edition of an ontology -/

theorem mem_flatMap_statements {ss : List Statement} {s : Statement} :
    s ∈ (topicsOf ss).flatMap Topic.statements ↔ s ∈ ss := by
  have hperm := (flatMap_statements_perm ss fun _ => true).mem_iff (a := s)
  rwa [List.filter_true, List.filter_true] at hperm

/-- The edition of a statement is that of the first term among its IRIs. -/
theorem findSome?_iris (s : Statement) :
    [some s.subject, some s.predicate, s.object.iri?].findSome? (·.bind Iri.edition?) =
      s.iris.findSome? Iri.edition? := by
  rw [Statement.iris]
  cases s.object.iri? <;> rfl

/-- Where only one edition is used, that is the edition of the ontology. -/
theorem editionOf_eq {ss : List Statement} {edition : Edition}
    (hall : ∀ s ∈ ss, ∀ a ∈ s.iris, ∀ e, a.edition? = some e → e = edition)
    (hsome : edition = .https ∨ ∃ s ∈ ss, ∃ a ∈ s.iris, a.edition? ≠ none) :
    editionOf (topicsOf ss) = edition := by
  rw [editionOf]
  simp only [findSome?_iris]
  cases hfind : ((topicsOf ss).flatMap Topic.statements).findSome? fun s =>
      s.iris.findSome? Iri.edition? with
  | some e =>
      obtain ⟨s, hs, he⟩ := List.exists_of_findSome?_eq_some hfind
      obtain ⟨a, ha, he⟩ := List.exists_of_findSome?_eq_some he
      exact hall s (mem_flatMap_statements.1 hs) a ha e he
  | none =>
      refine (hsome.resolve_right ?_).symm
      rintro ⟨s, hs, a, ha, hne⟩
      have hnone := List.findSome?_eq_none_iff.1 hfind s (mem_flatMap_statements.2 hs)
      exact hne (List.findSome?_eq_none_iff.1 hnone a ha)

end Ontotype

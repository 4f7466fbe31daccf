import Ontotype.Rdf.Vocabulary
import Ontotype.Text.Quoted

set_option autoImplicit false

/-! # Terms and statements

What an ontology is made of: statements that give a subject a property. The object of a statement
is an IRI, a literal, or a compact reference `label:name`, which names an IRI only if its label is
known. -/

namespace Ontotype

open Vocabulary

/-! ## Terms -/

/-- The object of a statement. -/
inductive Term where
  | entity (iri : Iri)
  | literal (value : String) (language : Option String)
  | compact (label name : String)
  deriving DecidableEq, Repr

namespace Term

/-- The IRI that a term names, if it names one. -/
def iri? : Term → Option Iri
  | .entity iri => some iri
  | .literal .. => none
  | .compact label name => (namespace? label).map fun base => ⟨base ++ name⟩

/-- Whether a term is a literal. -/
def isLiteral : Term → Bool
  | .literal .. => true
  | _ => false

/-- A term as messages show it. -/
def shown : Term → String
  | .entity iri => iri.shown
  | .literal value (some language) => Text.quoted value ++ "@" ++ language
  | .literal value none => Text.quoted value
  | .compact label name => label ++ ":" ++ name

/-- Whether a term names `rdfs:Class`. -/
def isClassType (t : Term) : Bool := t.iri? == some rdfsClass

/-- Whether a term names `rdf:Property`. -/
def isPropertyType (t : Term) : Bool := t.iri? == some rdfProperty

/-- Whether a term names the type of data types. -/
def isDataType (t : Term) : Bool := t.iri?.any (·.isSchema "DataType")

end Term

/-! ## Statements -/

/-- A subject, a predicate and an object. -/
structure Statement where
  subject : Iri
  predicate : Iri
  object : Term
  deriving DecidableEq, Repr

namespace Statement

/-- The meaning of a statement's predicate. -/
def kind (s : Statement) : Predicate := .ofIri s.predicate

/-- A statement as messages show it. -/
def shown (s : Statement) : String :=
  s.subject.shown ++ " " ++ s.predicate.shown ++ " " ++ s.object.shown

/-- The type that a statement declares its subject to have. -/
def declaredType? (s : Statement) : Option Iri :=
  if s.kind = .type then s.object.iri? else none

end Statement

end Ontotype

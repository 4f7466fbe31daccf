import Ontotype.Rdf.Statement

set_option autoImplicit false

/-! # Topics

A topic is a subject with all that is said about it. The topics of a list of statements stand in
the order in which their subjects first appear, and each keeps its statements in order: grouping
moves statements together and changes nothing else. -/

namespace Ontotype

open Vocabulary

/-- A subject and the statements about it. -/
structure Topic where
  subject : Iri
  statements : List Statement
  deriving DecidableEq, Repr

/-- The topics of a list of statements. -/
def topicsOf (ss : List Statement) : List Topic :=
  (ss.map Statement.subject).eraseDups.map fun subject =>
    { subject, statements := ss.filter (·.subject = subject) }

namespace Topic

/-- The types that a subject is declared to have, each once, in order of appearance. -/
def declaredTypes (t : Topic) : List Iri :=
  (t.statements.filterMap Statement.declaredType?).eraseDups

/-- Whether the subject is declared to be a class. -/
def isClass (t : Topic) : Bool := t.declaredTypes.any (· = rdfsClass)

/-- Whether the subject is declared to be a property. -/
def isProperty (t : Topic) : Bool := t.declaredTypes.any (· = rdfProperty)

/-- Whether the subject is declared to be a data type. -/
def isDataType (t : Topic) : Bool := t.declaredTypes.any (·.isSchema "DataType")

/-- Whether the subject is declared to be a value of an enumeration. -/
def hasEnumType (t : Topic) : Bool := Ontotype.hasEnumType t.declaredTypes

/-- Whether the subject is said to be a subclass of anything. -/
def hasSubClassOf (t : Topic) : Bool := t.statements.any (·.kind = .subClassOf)

end Topic

/-! ## Questions to all topics -/

/-- The edition of the schema.org namespace that an ontology is written in: that of the first
    schema.org term in its statements, and `https:` if there is none. -/
def editionOf (topics : List Topic) : Edition :=
  ((topics.flatMap Topic.statements).findSome? fun s =>
    [some s.subject, some s.predicate, s.object.iri?].findSome? (·.bind Iri.edition?)).getD .https

/-- The classes that statements name as superclasses; `rdfs:Class` says only that the subject is
    a class. -/
def superclasses (topics : List Topic) : List Iri :=
  ((topics.flatMap Topic.statements).filter fun s =>
    s.kind = .subClassOf && !s.object.isClassType).filterMap (·.object.iri?)

/-- The topics that describe classes: those declared as class or data type, those with a
    superclass, and those that are one. -/
def classTopics (topics : List Topic) : List Topic :=
  let above := superclasses topics
  topics.filter fun t => t.isClass || t.isDataType || t.hasSubClassOf || above.contains t.subject

end Ontotype

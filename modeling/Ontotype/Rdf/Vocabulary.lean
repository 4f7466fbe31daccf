import Ontotype.Iri.Parts
import Ontotype.Text.Cut

set_option autoImplicit false

/-! # The vocabulary that ontologies are written in

The namespaces whose labels may stand in compact references, the few terms of RDF and RDFS that
have a meaning here, and the schema.org terms, which are published under two editions of one
namespace: a schema.org term is recognised under either. -/

namespace Ontotype

/-! ## Namespaces -/

namespace Vocabulary

def rdf : String := "http://www.w3.org/1999/02/22-rdf-syntax-ns#"
def rdfs : String := "http://www.w3.org/2000/01/rdf-schema#"
def owl : String := "http://www.w3.org/2002/07/owl#"
def xsd : String := "http://www.w3.org/2001/XMLSchema#"

/-- The two editions of the schema.org namespace. -/
inductive Edition where
  | http
  | https
  deriving DecidableEq, Repr

/-- The namespace of an edition. -/
def Edition.base : Edition → String
  | .http => "http://schema.org/"
  | .https => "https://schema.org/"

/-- The labels that compact references may use. -/
def labels : List (String × String) :=
  [("rdf", rdf), ("rdfs", rdfs), ("owl", owl), ("xsd", xsd), ("schema", Edition.https.base)]

/-- The namespace that a label stands for. -/
def namespace? (label : String) : Option String := labels.lookup label

/-! ## Terms of RDF and RDFS -/

def rdfType : Iri := ⟨"http://www.w3.org/1999/02/22-rdf-syntax-ns#type"⟩
def rdfProperty : Iri := ⟨"http://www.w3.org/1999/02/22-rdf-syntax-ns#Property"⟩
def rdfsClass : Iri := ⟨"http://www.w3.org/2000/01/rdf-schema#Class"⟩
def rdfsComment : Iri := ⟨"http://www.w3.org/2000/01/rdf-schema#comment"⟩
def rdfsSubClassOf : Iri := ⟨"http://www.w3.org/2000/01/rdf-schema#subClassOf"⟩

/-- The schema.org term of an edition. -/
def Edition.term (edition : Edition) (name : String) : Iri := ⟨edition.base ++ name⟩

end Vocabulary

open Vocabulary

/-! ## Schema.org terms -/

namespace Iri

/-- The name of a schema.org term in one edition. -/
def nameIn? (iri : Iri) (edition : Edition) : Option String :=
  (Text.stripStart? edition.base.toList iri.text.toList).map String.ofList

/-- The edition that a schema.org term belongs to. -/
def edition? (iri : Iri) : Option Edition :=
  if (iri.nameIn? .https).isSome then some .https
  else if (iri.nameIn? .http).isSome then some .http
  else none

/-- The name of a schema.org term in either edition. -/
def schemaName? (iri : Iri) : Option String :=
  (iri.nameIn? .https).or (iri.nameIn? .http)

/-- Whether an IRI is the schema.org term of that name in one of the editions. -/
def isSchema (iri : Iri) (name : String) : Bool := iri.schemaName? == some name

/-! ## What a predicate or a type means -/

/-- Types that say what a subject is for the ontology and not what it is an instance of. -/
def isMetaType (iri : Iri) : Bool :=
  iri = rdfsClass || iri = rdfProperty || iri.isSchema "DataType"

end Iri

/-- The predicates that have a meaning here. -/
inductive Predicate where
  | comment
  | subClassOf
  | domainIncludes
  | rangeIncludes
  | supersededBy
  | type
  | other
  deriving DecidableEq, Repr

/-- The meaning of a predicate. -/
def Predicate.ofIri (iri : Iri) : Predicate :=
  if iri = rdfsComment then .comment
  else if iri = rdfsSubClassOf then .subClassOf
  else if iri = rdfType then .type
  else if iri.isSchema "domainIncludes" then .domainIncludes
  else if iri.isSchema "rangeIncludes" then .rangeIncludes
  else if iri.isSchema "supersededBy" then .supersededBy
  else .other

/-- Whether one of the types makes a subject a value of an enumeration. -/
def hasEnumType (types : List Iri) : Bool := types.any fun t => !t.isMetaType

end Ontotype

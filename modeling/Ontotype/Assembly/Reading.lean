import Ontotype.Assembly.Edit
import Ontotype.Rdf.Topic

set_option autoImplicit false

/-! # Reading topics

A topic may describe a class, a property and an enumeration value at the same time, and each of the
three takes from it the statements that it has a use for. A statement that none of them uses is
reported: by the class or the property if the topic describes one, by the value otherwise. -/

namespace Ontotype

open Vocabulary

/-! ## Classes -/

/-- What a statement says about the class that is its subject. -/
def readClassStatement (g : Graph) (s : Statement) : Reading :=
  match g.find? s.subject with
  | none => .ok []
  | some c =>
    match s.kind with
    | .comment => s.comment?.map fun text => text.toList.map (.commentClass c)
    | .subClassOf =>
      -- To be below `rdfs:Class` is to be a class, and no place in the hierarchy.
      if s.object.isClassType then .ok []
      else (g.resolve s).map fun parent => [.addParent c parent]
    | .supersededBy => (g.resolve s).map fun successor => [.addSuccessor c successor]
    | .type =>
      if s.object.isClassType then .ok [.mark c]
      else if s.object.isLiteral then .ok [.report s]
      else .ok []
    | .domainIncludes | .rangeIncludes | .other => .ok [.report s]

/-- What the topics say about classes. -/
def readClasses (g : Graph) (topics : List Topic) : List Reading :=
  (classTopics topics).flatMap fun t => t.statements.map (readClassStatement g)

/-! ## Properties -/

/-- What a statement says about the property `p`, which is its subject. -/
def readPropertyStatement (g : Graph) (p : PropertyId) (s : Statement) : Reading :=
  match s.kind with
  | .comment => s.comment?.map fun text => text.toList.map (.commentProperty p)
  | .rangeIncludes => (g.resolve s).map fun c => [.addRange p c]
  | .domainIncludes =>
    (g.resolve s).map fun c => [.bind { owner := c, property := p, key := s.subject }]
  | .supersededBy => .ok [.addPropertySuccessor p s.object]
  | .type => if s.object.isLiteral then .ok [.report s] else .ok []
  | .subClassOf | .other => .ok [.report s]

/-- What the topics say about properties. -/
def readProperties (g : Graph) (topics : List Topic) : List Reading :=
  ((topics.filter Topic.isProperty).zipIdx g.properties.length).flatMap fun (t, p) =>
    .ok [.addProperty t.subject] :: t.statements.map (readPropertyStatement g p)

/-! ## Enumeration values -/

/-- What a declared type says about the enumeration value `v`. -/
def readValueType (g : Graph) (v : ValueId) (subject type : Iri) : Reading :=
  match g.find? type with
  | some c => .ok [.addMember c v]
  | none => .error (.unknownClass { subject, predicate := rdfType, object := .entity type })

/-- What a statement says about the enumeration value `v`. It need not be reported if the subject
    is a class or a property too. -/
def readValueStatement (v : ValueId) (describedElsewhere : Bool) (s : Statement) : Reading :=
  match s.kind with
  | .comment => s.comment?.map fun text => text.toList.map (.commentValue v)
  | .type => .ok []
  | _ => if describedElsewhere then .ok [] else .ok [.report s]

/-- What the topics say about enumeration values. -/
def readValues (g : Graph) (topics : List Topic) : List Reading :=
  ((topics.filter Topic.hasEnumType).zipIdx g.values.length).flatMap fun (t, v) =>
    .ok [.addValue t.subject]
      :: (t.declaredTypes.filter (!·.isMetaType)).map (readValueType g v t.subject)
      ++ t.statements.map (readValueStatement v ((g.find? t.subject).isSome || t.isProperty))

end Ontotype

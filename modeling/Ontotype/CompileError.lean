import Ontotype.Context
import Ontotype.Rdf.Statement

set_option autoImplicit false

/-! # Why an ontology can not be compiled -/

namespace Ontotype

/-- The reasons to refuse an ontology. -/
inductive CompileError where
  /-- A comment that is not a text. -/
  | commentNotText (statement : Statement)
  /-- A text where a class has to be named. -/
  | notAReference (statement : Statement)
  /-- A reference to a class that the ontology does not have. -/
  | unknownClass (statement : Statement)
  /-- Neither the class nor one above it is declared to be a class. -/
  | unclassified (iri : Iri)
  | invalidContext (error : ContextError)
  deriving DecidableEq, Repr

/-- What an error says. -/
def CompileError.message : CompileError → String
  | .commentNotText s => "malformed input: " ++ s.shown ++ ": comment must be a string literal"
  | .notAReference s => "malformed input: " ++ s.shown ++ ": expected a class reference"
  | .unknownClass s => "dangling reference: " ++ s.shown ++ " does not name a known class"
  | .unclassified iri =>
    "class " ++ iri.shown ++ " is not marked as an rdfs:Class, and neither are any of its parents"
  | .invalidContext error => "invalid naming context: " ++ error.message

/-- The text of a statement if it is a comment; an object other than a text is an error. -/
def Statement.comment? (s : Statement) : Except CompileError (Option String) :=
  if s.kind = .comment then
    match s.object with
    | .literal value _ => .ok (some value)
    | _ => .error (.commentNotText s)
  else .ok none

end Ontotype

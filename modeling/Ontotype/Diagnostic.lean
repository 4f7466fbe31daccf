import Ontotype.Rdf.Statement

set_option autoImplicit false

/-! # Findings that do not stop a compilation -/

namespace Ontotype

/-- The kinds of finding. -/
inductive DiagnosticKind where
  /-- A comment that replaces an earlier one. -/
  | duplicateComment
  /-- A statement that has no effect. -/
  | unrecognizedStatement
  /-- Two declarations with one name. -/
  | nameCollision
  deriving DecidableEq, Repr

/-- The name of a kind. -/
def DiagnosticKind.name : DiagnosticKind → String
  | .duplicateComment => "duplicate comment"
  | .unrecognizedStatement => "unrecognized statement"
  | .nameCollision => "name collision"

/-- A finding about a subject. -/
structure Diagnostic where
  kind : DiagnosticKind
  subject : Iri
  message : String
  deriving DecidableEq, Repr

namespace Diagnostic

/-- A finding as it is shown. -/
def shown (d : Diagnostic) : String := d.kind.name ++ " on " ++ d.subject.shown ++ ": " ++ d.message

/-- The findings of a kind, in order. -/
def ofKind (kind : DiagnosticKind) (ds : List Diagnostic) : List Diagnostic :=
  ds.filter (·.kind = kind)

/-- The comment of a subject replaces an earlier one. -/
def replacedComment (subject : Iri) : Diagnostic :=
  { kind := .duplicateComment, subject, message := "comment overwritten" }

/-- A statement has no effect. -/
def unrecognized (s : Statement) : Diagnostic :=
  { kind := .unrecognizedStatement
    subject := s.subject
    message := "did not consume " ++ s.predicate.shown ++ " " ++ s.object.shown }

/-- A declaration has the scoped name of an earlier one. -/
def sharedScopedName (subject : Iri) (name : String) (earlier : Iri) : Diagnostic :=
  { kind := .nameCollision
    subject
    message := "scoped name " ++ Text.quoted name ++ " is also used by " ++ earlier.shown }

/-- A declaration has the identifier of an earlier one. -/
def sharedIdent (subject : Iri) (ident : String) (earlier : Iri) : Diagnostic :=
  { kind := .nameCollision
    subject
    message := "identifier " ++ Text.quoted ident ++ " is also used by " ++ earlier.shown }

end Diagnostic

end Ontotype

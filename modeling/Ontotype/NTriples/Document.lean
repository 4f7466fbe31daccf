import Ontotype.NTriples.Line
import Ontotype.Rdf.Statement

set_option autoImplicit false

/-! # Reading N-Triples documents

A document is read line by line, and the first line that fails decides. What reads the triples of a
line is a parameter: a line fails for the first of its triples that makes no statement, or for the
first fault that the parser answers with, and nothing else of a parser is used.

Blank nodes are read and then refused, the subject before the object. -/

namespace Ontotype.NTriples

open Ontotype.Text

/-! ## Statements -/

/-- Why a line is refused. -/
inductive Fault where
  | malformed
  | blankSubject (label : String)
  | blankObject (label : String)
  deriving DecidableEq, Repr

/-- Label and name of a compact reference: an IRI whose scheme is a known label, unless two slashes
    follow it. -/
def compactParts? (iri : List Char) : Option (String × String) :=
  match cut ':' iri with
  | (label, some name) =>
    if stripStart? ['/', '/'] name = none ∧ Vocabulary.namespace? (String.ofList label) ≠ none then
      some (String.ofList label, String.ofList name)
    else none
  | (_, none) => none

/-- A subject or a predicate; a compact reference counts as the IRI that it stands for. -/
def nameOf (iri : List Char) : Iri :=
  ((compactParts? iri).bind fun (label, name) =>
    (Vocabulary.namespace? label).map fun base => ⟨base ++ name⟩).getD ⟨String.ofList iri⟩

/-- An IRI as an object; a compact reference stays one. -/
def objectOf (iri : List Char) : Term :=
  match compactParts? iri with
  | some (label, name) => .compact label name
  | none => .entity ⟨String.ofList iri⟩

/-- The statement that a triple makes, if it has no blank node. -/
def Triple.statement (t : Triple) : Except Fault Statement :=
  match t.subject with
  | .iri subject =>
    let said (object : Term) : Statement :=
      { subject := nameOf subject, predicate := nameOf t.predicate, object }
    match t.object with
    | .iri object => .ok (said (objectOf object))
    | .literal value language =>
      .ok (said (.literal (String.ofList value) (language.map String.ofList)))
    | .blank label => .error (.blankObject (String.ofList label))
  | .blank label => .error (.blankSubject (String.ofList label))
  | .literal .. => .error .malformed

/-! ## Lines -/

/-- What reads a line: the triples on it one after the other, and `none` where there is a fault. -/
abbrev TripleParser := List Char → List (Option Triple)

/-- The statement that an answer of a parser makes. -/
def statementOf : Option Triple → Except Fault Statement
  | none => .error .malformed
  | some t => t.statement

/-- The statements of a line. -/
def readLine (parse : TripleParser) (cs : List Char) : Except Fault (List Statement) :=
  (parse cs).mapM statementOf

/-! ## Documents -/

/-- A refused line, counted from 1. -/
structure LineError where
  line : Nat
  fault : Fault
  deriving DecidableEq, Repr

/-- What a refusal says about a fault. -/
def Fault.message : Fault → String
  | .malformed => "syntax"
  | .blankSubject label => "unsupported subject _:" ++ label
  | .blankObject label => "unsupported object _:" ++ label

/-- A refusal as a message. -/
def LineError.message (e : LineError) : String :=
  "line " ++ toString e.line ++ ": " ++ e.fault.message

/-- The statements of a line with its number. -/
def readNumbered (parse : TripleParser) : List Char × Nat → Except LineError (List Statement)
  | (cs, line) => (readLine parse cs).mapError fun fault => { line, fault }

/-- The statements of lines of which the first has the number `line`. -/
def readLines (parse : TripleParser) (line : Nat) (ls : List (List Char)) :
    Except LineError (List Statement) :=
  ((ls.zipIdx line).mapM (readNumbered parse)).map List.flatten

/-- The statements of a document of which `parse` reads the lines. -/
def readDocumentBy (parse : TripleParser) (text : String) : Except LineError (List Statement) :=
  readLines parse 1 (Text.lines text.toList)

/-- The statements of a document. -/
def readDocument (text : String) : Except LineError (List Statement) := readDocumentBy triples text

end Ontotype.NTriples

import Ontotype.Graph.Basic
import Ontotype.Diagnostic

set_option autoImplicit false

/-! # Assembling a class graph by edits

An ontology is assembled in stages, and a stage works in two steps. It first *reads* its
statements, each into the edits that it asks for or into the error that refuses it; what a
statement asks for does not depend on the statements before it. Then it applies the edits that
stand before the first error. `Build` is what has been assembled so far: the graph, and the
findings on the way. -/

namespace Ontotype

/-- One change that a statement asks for. -/
inductive Edit where
  | commentClass (c : ClassId) (text : String)
  | addParent (child parent : ClassId)
  | addSuccessor (c successor : ClassId)
  /-- The class is declared to be one. -/
  | mark (c : ClassId)
  | addProperty (iri : Iri)
  | commentProperty (p : PropertyId) (text : String)
  | addRange (p : PropertyId) (c : ClassId)
  | addPropertySuccessor (p : PropertyId) (t : Term)
  | bind (b : Binding)
  | addValue (iri : Iri)
  | commentValue (v : ValueId) (text : String)
  | addMember (c : ClassId) (v : ValueId)
  /-- The statement has no effect, which is reported. -/
  | report (s : Statement)
  deriving DecidableEq, Repr

/-- What has been assembled so far. -/
structure Build where
  graph : Graph
  findings : List Diagnostic

namespace Build

/-- Changes the graph. -/
def edit (b : Build) (f : Graph → Graph) : Build := { b with graph := f b.graph }

/-- Reports a finding. -/
def report (b : Build) (d : Diagnostic) : Build := { b with findings := b.findings ++ [d] }

/-- Changes the comment of a subject, and reports it if there was one already. -/
def comment (b : Build) (earlier : Option String) (subject : Iri) (f : Graph → Graph) :
    Build :=
  (if earlier.isSome then b.report (.replacedComment subject) else b).edit f

/-- Applies an edit. -/
def apply (b : Build) : Edit → Build
  | .commentClass c text =>
    b.comment (b.graph.entry c).comment (b.graph.iri c) (·.setComment c text)
  | .addParent child parent => b.edit (·.addParent child parent)
  | .addSuccessor c successor => b.edit (·.addSuccessor c successor)
  | .mark c => b.edit (·.setMarked c true)
  | .addProperty iri => b.edit fun g => (g.addProperty iri).1
  | .commentProperty p text =>
    b.comment (b.graph.property p).comment (b.graph.property p).iri (·.setPropertyComment p text)
  | .addRange p c =>
    if c ∈ (b.graph.property p).ranges then b else b.edit (·.addRange p c)
  | .addPropertySuccessor p t => b.edit (·.addPropertySuccessor p t)
  | .bind binding => b.edit (·.bind binding)
  | .addValue iri => b.edit fun g => (g.addValue iri).1
  | .commentValue v text =>
    b.comment (b.graph.value v).comment (b.graph.value v).iri (·.setValueComment v text)
  | .addMember c v => b.edit (·.addMember c v)
  | .report s => b.report (.unrecognized s)

end Build

/-! ## Stages -/

/-- What one step of a stage asks for, or why it is refused. -/
abbrev Reading := Except CompileError (List Edit)

/-- The edits before the first error, and that error. -/
def editsOf (readings : List Reading) : List Edit × Option CompileError :=
  readings.foldr
    (fun reading (edits, failure) =>
      match reading with
      | .ok first => (first ++ edits, failure)
      | .error e => ([], some e))
    ([], none)

theorem editsOf_cons_ok (edits : List Edit) (rest : List Reading) :
    editsOf (.ok edits :: rest) = (edits ++ (editsOf rest).1, (editsOf rest).2) :=
  rfl

theorem editsOf_cons_error (e : CompileError) (rest : List Reading) :
    editsOf (.error e :: rest) = ([], some e) :=
  rfl

/-- Where a stage has got to: what is assembled, and the error that stopped it, if one did. -/
structure Outcome where
  build : Build
  failure : Option CompileError

/-- What a stage that was not stopped has assembled. -/
def Outcome.toExcept (o : Outcome) : Except CompileError Build :=
  match o.failure with
  | none => .ok o.build
  | some e => .error e

/-- Runs a stage. -/
def Build.run (b : Build) (readings : List Reading) : Outcome :=
  { build := (editsOf readings).1.foldl Build.apply b, failure := (editsOf readings).2 }

end Ontotype

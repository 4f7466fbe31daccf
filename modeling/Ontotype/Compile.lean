import Ontotype.Assembly.Stages
import Ontotype.Graph.Order
import Ontotype.Declaration.Preamble
import Ontotype.Declaration.Resolve

set_option autoImplicit false

/-! # Compiling an ontology

From statements to declarations: the statements are grouped into topics, the topics are assembled
into a class graph, and every class that is included is resolved into a declaration. -/

namespace Ontotype

/-- How an ontology is compiled. -/
structure Options where
  /-- Whether deprecated classes and properties are included. -/
  includeDeprecated : Bool := false
  /-- The context that gives the names. -/
  context : Context := .standard

/-- A compiled ontology. -/
structure Compiled where
  graph : Graph
  preamble : Preamble
  declarations : List Declaration
  findings : List Diagnostic

/-- The declaration with an identifier. -/
def Compiled.declaration? (c : Compiled) (ident : String) : Option Declaration :=
  c.declarations.find? (·.ident = ident)

/-! ## Shared names -/

/-- The finding about a declaration that shares a name with one of those before it, the latest
    first. A shared scoped name outweighs a shared identifier. -/
def collision? (before : List Declaration) (d : Declaration) : Option Diagnostic :=
  match before.find? (·.scopedName = d.scopedName) with
  | some e => some (.sharedScopedName d.iri d.scopedName e.iri)
  | none => (before.find? (·.ident = d.ident)).map fun e => .sharedIdent d.iri d.ident e.iri

/-- The findings about shared names in declarations that follow those of `before`. -/
def collisions (before : List Declaration) : List Declaration → List Diagnostic
  | [] => []
  | d :: rest => (collision? before d).toList ++ collisions (d :: before) rest

/-! ## Compiling -/

/-- The declarations of the classes that are included, in order. -/
def declarationsOf (g : Graph) (o : Options) : List Declaration :=
  let r := Resolver.ofGraph g o.context o.includeDeprecated
  (g.sortedIds.filter r.visible).map r.declaration

/-- What is compiled from an assembled graph. -/
def Build.compiled (b : Build) (o : Options) : Compiled :=
  let declarations := declarationsOf b.graph o
  { graph := b.graph
    preamble := .ofGraph b.graph o.context
    declarations
    findings := b.findings ++ collisions [] declarations }

/-- Compiles an ontology. -/
def compile (o : Options) (statements : List Statement) : Except CompileError Compiled := do
  o.context.validate.mapError .invalidContext
  let b ← assemble (topicsOf statements)
  return b.compiled o

end Ontotype

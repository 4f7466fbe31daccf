import Ontotype.Graph.Basic
import Ontotype.Context

set_option autoImplicit false

/-! # Helper declarations

What is emitted once, ahead of the classes, for their declarations to refer to. -/

namespace Ontotype

/-- The helper declarations. -/
inductive Helper where
  /-- The value of a property: one value, or an array of them. -/
  | schemaValue
  /-- A reference by identity. -/
  | idReference
  /-- An object with a context of its own. -/
  | withContext
  /-- A document of several objects. -/
  | graph
  deriving DecidableEq, Repr

/-- All helper declarations, in the order in which they are emitted. -/
def Helper.all : List Helper := [.schemaValue, .idReference, .withContext, .graph]

/-- The helper declarations of an ontology, and what they depend on. -/
structure Preamble where
  kinds : List Helper
  /-- Whether values may be wrapped in a role. -/
  hasRole : Bool
  /-- The value of `@context`. -/
  context : Json
  /-- The identifier of the class of all objects, if there is one. -/
  root : Option String

/-- The helper declarations of a class graph. -/
def Preamble.ofGraph (g : Graph) (context : Context) : Preamble :=
  { kinds := Helper.all
    hasRole := g.ids.any fun c => (g.iri c).isSchema "Role"
    context := context.value
    root :=
      (g.ids.find? fun c => g.kind c = .ordinary && (g.iri c).isSchema "Thing").map g.identifier }

end Ontotype

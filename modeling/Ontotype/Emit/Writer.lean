import Ontotype.Compile
import Ontotype.Emit.JsonLines
import Ontotype.Emit.TypeScript

set_option autoImplicit false

/-! # Emitting a compiled ontology

A writer writes helper declarations and declarations in one of the formats, and counts the
declarations. Whether values may be wrapped in a role is known from the helper declarations, which
therefore come first. -/

namespace Ontotype

/-- The formats. -/
inductive Format where
  | typeScript
  | jsonLines
  deriving DecidableEq, Repr

/-- The format that a name in lower case stands for. -/
def Format.ofName? (name : String) : Option Format :=
  if name = "typescript" ∨ name = "ts" then some .typeScript
  else if name = "json" then some .jsonLines
  else none

/-- What a writer keeps between two texts. -/
structure Writer where
  format : Format
  /-- Whether values may be wrapped in a role. -/
  hasRole : Bool := false
  /-- The number of declarations that have been written. -/
  count : Nat := 0

namespace Writer

/-- Writes the helper declarations. -/
def preamble (w : Writer) (h : Preamble) : String × Writer :=
  match w.format with
  | .typeScript => (TypeScript.preambleText h, { w with hasRole := h.hasRole })
  | .jsonLines => (JsonLines.preambleText h, w)

/-- Writes a declaration. -/
def declaration (w : Writer) (d : Declaration) : String × Writer :=
  let text :=
    match w.format with
    | .typeScript => TypeScript.declarationText w.hasRole d
    | .jsonLines => JsonLines.declarationText d
  (text, { w with count := w.count + 1 })

/-- Writes declarations one after the other. -/
def declarations (w : Writer) : List Declaration → String × Writer
  | [] => ("", w)
  | d :: rest =>
    let (text, w) := w.declaration d
    let (more, w) := w.declarations rest
    (text ++ more, w)

/-- Writes a compiled ontology. -/
def emit (w : Writer) (c : Compiled) : String × Writer :=
  let (text, w) := w.preamble c.preamble
  let (more, w) := w.declarations c.declarations
  (text ++ more, w)

end Writer

end Ontotype

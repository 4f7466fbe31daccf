import Ontotype.Declaration.Basic
import Ontotype.Declaration.Preamble
import Ontotype.Text.Cut

set_option autoImplicit false

/-! # Declarations as TypeScript

A declaration is written as up to two interfaces and a type alias. Texts of the ontology reach the
output in three ways, and each keeps them in their place: a comment stands in a block comment, where
`*/` is broken up; names, keys and literals stand in string tokens; identifiers are made of letters,
digits and underscores. -/

namespace Ontotype.TypeScript

open Ontotype.Text

/-! ## Comments -/

/-- Breaks up every end of a block comment. -/
def breakEnds : List Char → List Char
  | [] => []
  | '*' :: '/' :: rest => '*' :: '\\' :: '/' :: breakEnds rest
  | c :: rest => c :: breakEnds rest

/-- A line of a block comment. -/
def docLine (indent line : String) : String :=
  if line = "" then indent ++ " *" else indent ++ " * " ++ line

/-- A comment as a block comment: on one line if it has one line. -/
def doc (indent : String) : Option String → List String
  | none => []
  | some comment =>
    match linesOf (String.ofList (breakEnds comment.toList)) with
    | [line] => [indent ++ "/** " ++ line ++ " */"]
    | lines => [indent ++ "/**"] ++ lines.map (docLine indent) ++ [indent ++ " */"]

/-! ## Types -/

/-- A reference to a type. -/
def typeRef : TypeRef → String
  | .primitive type => type.name
  | .named ident => ident
  | .literal text => Json.quote text
  | .idReference => "IdReference"

/-- A union; that of nothing has no values. -/
def union (types : List TypeRef) : String :=
  if types.isEmpty then "never" else String.intercalate " | " (types.map typeRef)

/-! ## Helper declarations -/

/-- The lines of a helper declaration. -/
def helper (h : Preamble) : Helper → List String
  | .schemaValue =>
    if h.hasRole then
      ["type RoleValue<TContent, TProperty extends string> = "
        ++ "Role & \x7b [key in TProperty]?: TContent \x7d;",
       "type SchemaValue<T, TProperty extends string> = "
        ++ "T | RoleValue<T, TProperty> | readonly (T | RoleValue<T, TProperty>)[];"]
    else ["type SchemaValue<T> = T | readonly T[];"]
  | .idReference =>
    ["type IdReference = \x7b",
     "    /** IRI identifying the canonical address of this object. */",
     "    \"@id\": string;",
     "\x7d;"]
  | .withContext =>
    ["/** Used at the top-level node to indicate the context for the JSON-LD objects used. */",
     "export type WithContext<T extends " ++ h.root.getD "object" ++ "> = T & \x7b",
     "    \"@context\": " ++ h.context.text ++ ";",
     "\x7d;"]
  | .graph =>
    ["export interface Graph \x7b",
     "    \"@context\": " ++ h.context.text ++ ";",
     "    \"@graph\": readonly " ++ h.root.getD "object" ++ "[];",
     "\x7d"]

/-- The text of the helper declarations, each with an empty line after it. -/
def preambleText (h : Preamble) : String :=
  unlines (h.kinds.flatMap fun k => helper h k ++ [""])

/-! ## Declarations -/

/-- The lines of a property. In an ontology with roles, its values know the key. -/
def member (hasRole : Bool) (m : Member) : List String :=
  let key := Json.quote m.key
  let value := if hasRole then union m.range ++ ", " ++ key else union m.range
  doc "    " m.comment ++ ["    " ++ key ++ "?: SchemaValue<" ++ value ++ ">;"]

/-- What a base extends. -/
def heritage : Heritage → String
  | .referenceable => "Partial<IdReference>"
  | .parents names => String.intercalate ", " names

/-- The lines of a base. -/
def base (hasRole : Bool) (b : Base) : List String :=
  ["interface " ++ b.name ++ " extends " ++ heritage b.heritage ++ " \x7b"]
    ++ b.members.flatMap (member hasRole)
    ++ ["\x7d"]

/-- The lines of a leaf. -/
def leaf (l : Leaf) : List String :=
  let extended :=
    if l.bases.isEmpty then "" else " extends " ++ String.intercalate ", " l.bases
  ["interface " ++ l.name ++ extended ++ " \x7b",
   "    \"@type\": " ++ Json.quote l.discriminator ++ ";",
   "\x7d"]

/-- The lines of a declaration, with an empty one after it. -/
def declaration (hasRole : Bool) (d : Declaration) : List String :=
  (d.base.map (base hasRole)).getD [] ++ (d.leaf.map leaf).getD [] ++ doc "" d.comment
    ++ ["export type " ++ d.ident ++ " = " ++ union d.total ++ ";", ""]

/-- The text of a declaration. -/
def declarationText (hasRole : Bool) (d : Declaration) : String :=
  unlines (declaration hasRole d)

end Ontotype.TypeScript

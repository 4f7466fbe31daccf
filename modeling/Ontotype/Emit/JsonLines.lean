import Ontotype.Declaration.Basic
import Ontotype.Declaration.Preamble

set_option autoImplicit false

/-! # Declarations as JSON lines

One line with what the helper declarations depend on, then one line for each declaration. The
members of the first line are in the order of their names, those of a declaration in the order of
its parts. -/

namespace Ontotype.JsonLines

/-! ## Values -/

/-- How a kind of class is written. -/
def kindName : ClassKind → String
  | .builtin => "builtin"
  | .dataTypeUnion => "data_type_union"
  | .ordinary => "class"

/-- How a helper declaration is written. -/
def helperName : Helper → String
  | .schemaValue => "schema_value"
  | .idReference => "id_reference"
  | .withContext => "with_context"
  | .graph => "graph"

/-- A reference to a type. -/
def typeRef : TypeRef → Json
  | .primitive type =>
    .object [("kind", .string "primitive"), ("value", .string type.name)]
  | .named ident => .object [("kind", .string "named"), ("value", .string ident)]
  | .literal text => .object [("kind", .string "literal"), ("value", .string text)]
  | .idReference => .object [("kind", .string "id_reference")]

/-- What a base stands on. -/
def heritage : Heritage → Json
  | .parents names => .object [("kind", .string "parents"), ("names", .strings names)]
  | .referenceable => .object [("kind", .string "referenceable")]

/-- A property of a base. -/
def member (m : Member) : Json :=
  .object
    [("iri", .string m.iri.text),
     ("key", .string m.key),
     ("comment", .ofOption m.comment),
     ("deprecated", .bool m.deprecated),
     ("range", .array (m.range.map typeRef))]

/-- A base. -/
def base (b : Base) : Json :=
  .object
    [("name", .string b.name),
     ("heritage", heritage b.heritage),
     ("members", .array (b.members.map member))]

/-- A leaf. -/
def leaf (l : Leaf) : Json :=
  .object
    [("name", .string l.name),
     ("extends", .strings l.bases),
     ("type_discriminator", .string l.discriminator)]

/-- An enumeration value. -/
def enumMember (m : EnumMember) : Json :=
  .object
    [("iri", .string m.iri.text),
     ("scoped_name", .string m.scopedName),
     ("comment", .ofOption m.comment),
     ("literals", .strings m.literals)]

/-- A declaration. -/
def declaration (d : Declaration) : Json :=
  .object
    [("iri", .string d.iri.text),
     ("scoped_name", .string d.scopedName),
     ("ident", .string d.ident),
     ("kind", .string (kindName d.kind)),
     ("comment", .ofOption d.comment),
     ("deprecated", .bool d.deprecated),
     ("parents", .strings d.parents),
     ("base", (d.base.map base).getD .null),
     ("leaf", (d.leaf.map leaf).getD .null),
     ("total", .array (d.total.map typeRef)),
     ("enum_members", .array (d.enumMembers.map enumMember))]

/-- The helper declarations, and what they depend on. -/
def preamble (h : Preamble) : Json :=
  .sorted
    [("kinds", .array (h.kinds.map fun k => .string (helperName k))),
     ("has_role", .bool h.hasRole),
     ("context", h.context),
     ("root", .ofOption h.root)]

/-! ## Lines -/

/-- A value on a line of its own. -/
def line (j : Json) : String := j.text ++ "\n"

/-- The line of the helper declarations. -/
def preambleText (h : Preamble) : String := line (.object [("helpers", preamble h)])

/-- The line of a declaration. -/
def declarationText (d : Declaration) : String := line (declaration d)

end Ontotype.JsonLines

import Ontotype.Assembly.Reading
import Ontotype.Graph.Reach

set_option autoImplicit false

/-! # The stages of assembly

Before any statement is read, every class gets its number: first the builtin classes and their
union, then one class for each topic that describes one. Later stages add no class, so what a
reference names is settled here.

Then classes are linked, the result is validated, and properties and enumeration values are bound
to it. The first stage that fails ends the assembly. -/

namespace Ontotype

open Vocabulary

/-! ## Declaring the classes -/

/-- The builtin classes, by their names, and the types that they are other names of. -/
def builtins : List (String × Primitive) :=
  [("Text", .string), ("Number", .number), ("Boolean", .boolean), ("Date", .string),
   ("DateTime", .string), ("Time", .string)]

/-- The number of the union of the builtin classes, which comes right after them. -/
def unionId : ClassId := builtins.length

/-- The graph of the builtin classes and their union. -/
def seedGraph (edition : Edition) : Graph :=
  (List.range builtins.length).foldl (fun g c => g.addUnionMember unionId c)
    { classes :=
        builtins.map (fun (name, type) => .builtin (edition.term name) (.primitive type))
          ++ [.ofKind (edition.term "DataType") .dataTypeUnion] }

/-- Adds the class that a topic describes. A data type is another name for texts, and a member of
    the union. -/
def declareTopic (g : Graph) (t : Topic) : Graph :=
  match g.find? t.subject with
  | some _ => g
  | none =>
    if t.isDataType then
      let (g, c) := g.insert (.builtin t.subject (.primitive .string))
      g.addUnionMember unionId c
    else (g.insert (.ofKind t.subject .ordinary)).1

/-- The graph of all classes of an ontology, none of them linked to another one yet. -/
def declaredGraph (topics : List Topic) : Graph :=
  (classTopics topics).foldl declareTopic (seedGraph (editionOf topics))

/-! ## Stages -/

/-- Before any statement is read. -/
def Build.start (topics : List Topic) : Build := { graph := declaredGraph topics, findings := [] }

/-- Reads what the topics say about classes. -/
def Build.linkClasses (b : Build) (topics : List Topic) : Outcome :=
  b.run (readClasses b.graph topics)

/-- Reads what the topics say about properties. -/
def Build.bindProperties (b : Build) (topics : List Topic) : Outcome :=
  b.run (readProperties b.graph topics)

/-- Reads what the topics say about enumeration values. -/
def Build.bindValues (b : Build) (topics : List Topic) : Outcome :=
  b.run (readValues b.graph topics)

/-- Runs all stages. -/
def assemble (topics : List Topic) : Except CompileError Build := do
  let b ← ((Build.start topics).linkClasses topics).toExcept
  b.graph.validate
  let b ← (b.bindProperties topics).toExcept
  (b.bindValues topics).toExcept

end Ontotype

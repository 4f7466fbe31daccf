import Ontotype.Main
import Ontotype.Proofs.Results
import Ontotype.Proofs.Sorted
import Ontotype.Proofs.Graph.Hierarchy
import Ontotype.Proofs.Graph.Reach
import Ontotype.Proofs.Graph.Settling
import Ontotype.Proofs.Graph.Tables
import Ontotype.Proofs.Graph.Renumbering
import Ontotype.Proofs.Graph.Order
import Ontotype.Proofs.Rdf.Topics
import Ontotype.Proofs.Rdf.Vocabulary
import Ontotype.Proofs.Rdf.Respelling
import Ontotype.Proofs.Rdf.Spelling
import Ontotype.Proofs.Assembly.Edits
import Ontotype.Proofs.Assembly.Declared
import Ontotype.Proofs.Assembly.Readings
import Ontotype.Proofs.Assembly.Stages
import Ontotype.Proofs.Assembly.Portrait
import Ontotype.Proofs.Assembly.Alike
import Ontotype.Proofs.Assembly.Acceptance
import Ontotype.Proofs.Assembly.Findings
import Ontotype.Proofs.Compile
import Ontotype.Proofs.Assembly.Transcript
import Ontotype.Proofs.Assembly.Demands
import Ontotype.Proofs.Declaration.Heritage
import Ontotype.Proofs.Declaration.References
import Ontotype.Proofs.Declaration.Inheritance
import Ontotype.Proofs.Declaration.Hiding
import Ontotype.Proofs.Declaration.Mentions
import Ontotype.Proofs.Declaration.Collisions
import Ontotype.Proofs.Declaration.Alike
import Ontotype.Proofs.StatementOrder
import Ontotype.Proofs.Reports
import Ontotype.Proofs.Assembly.Respelling
import Ontotype.Proofs.Declaration.Respelling
import Ontotype.Proofs.Spelling
import Ontotype.Proofs.Refusals
import Ontotype.Proofs.Declaration.Keys
import Ontotype.Proofs.Assembly.Calls
import Ontotype.Proofs.Assembly.Passing
import Ontotype.Proofs.Emit.Scanner
import Ontotype.Proofs.Emit.Comments
import Ontotype.Proofs.Declaration.Identifiers
import Ontotype.Proofs.Emit.Placement
import Ontotype.Proofs.Emit.Names
import Ontotype.Proofs.Graph.Growth
import Ontotype.Proofs.Graph.Search
import Ontotype.Proofs.Assembly.Growth
import Ontotype.Proofs.Declaration.Growth
import Ontotype.Proofs.Rdf.Editions
import Ontotype.Proofs.Editions
import Ontotype.Proofs.JsonText
import Ontotype.Proofs.Emit.JsonLines
import Ontotype.Proofs.Command.FailedRuns
import Ontotype.Proofs.Graph.Memo
import Ontotype.Proofs.Graph.NodeTypes
import Ontotype.Proofs.Graph.Inherited
import Ontotype.Proofs.Assembly.Ways
import Ontotype.Proofs.Declaration.Members
import Ontotype.Proofs.Declaration.Values
import Ontotype.Proofs.Declaration.Totals
import Ontotype.Proofs.Declaration.Bottom
import Ontotype.Proofs.Declaration.Order
import Ontotype.Proofs.Iri.Parts
import Ontotype.Proofs.Iri.Composed
import Ontotype.Proofs.Context
import Ontotype.Proofs.NTriples.Document
import Ontotype.Proofs.Rdf.Grouping

import Ontotype.Command.Args
import Ontotype.Command.Host
import Ontotype.Emit.Writer
import Ontotype.NTriples.Document
import Ontotype.Text.Lowercase

set_option autoImplicit false

/-! # A run of the command

An ontology is loaded, the context is read, the ontology is compiled, the output is opened, the
format is chosen, and the declarations are written: in this order, and the first step that fails
ends the run.

The lines that a run logs are left out. They go to the standard error stream, where they stand among
the summary and the errors below; what the parser itself says about a line that it can not read is
left out as well, and stands here as the word "syntax". -/

namespace Ontotype.Command

/-! ## Failures -/

/-- Why a run fails. -/
inductive Failure where
  | unreadable (reason : String)
  /-- The input is not UTF-8. -/
  | notText
  | malformed (error : NTriples.LineError)
  | refused (error : CompileError)
  | uncreatable (reason : String)
  | unknownFormat (name : String)
  deriving DecidableEq, Repr

/-- What a failure says. -/
def Failure.message : Failure → String
  | .unreadable reason => "IO error: " ++ reason
  | .notText => "IO error: stream did not contain valid UTF-8"
  | .malformed error => error.message
  | .refused error => error.message
  | .uncreatable reason => reason
  | .unknownFormat name =>
    "Unknown format: " ++ name ++ ". Use 'typescript' or 'json'."

/-! ## Steps -/

/-- The statements in the bytes of an input. -/
def load (bytes : List UInt8) : Except Failure (List Statement) :=
  match Text.Utf8.decodeStrict? bytes with
  | none => .error .notText
  | some cs => (NTriples.readDocument (String.ofList cs)).mapError .malformed

/-- How a request wants the ontology compiled. -/
def Request.options (r : Request) : Except Failure Options :=
  ((Context.parse r.context).mapError fun e => .refused (.invalidContext e)).map fun context =>
    { includeDeprecated := r.deprecated, context }

/-- The compiled ontology of an input. -/
def Request.compiled (r : Request) (bytes : List UInt8) : Except Failure Compiled := do
  let statements ← load bytes
  let options ← r.options
  (compile options statements).mapError .refused

/-- The format that a request names, in any case. -/
def Request.chosenFormat (r : Request) : Except Failure Format :=
  match Format.ofName? (Text.lowercase r.format) with
  | some format => .ok format
  | none => .error (.unknownFormat (Text.lowercase r.format))

/-- What is reported at the end. -/
def summary (declarations findings : Nat) : String :=
  "Emitted " ++ toString declarations ++ " declarations (" ++ toString findings
    ++ " diagnostics)\n"

/-! ## Runs -/

variable {m : Type → Type} [Monad m]

/-- Opens the output of a request; returns how to write to it. -/
def Request.openOutput (r : Request) (h : Host m) : ExceptT Failure m (String → m Unit) :=
  match r.output with
  | none => return h.out
  | some path => do
    match ← h.create path with
    | .ok () => return h.append path
    | .error reason => throw (.uncreatable reason)

/-- Does what a request asks for. -/
def Request.run (r : Request) (h : Host m) : ExceptT Failure m Unit := do
  let bytes ←
    match ← h.read r.input with
    | .ok bytes => pure bytes
    | .error reason => throw (.unreadable reason)
  let compiled ← ExceptT.mk (pure (r.compiled bytes))
  let write ← r.openOutput h
  let format ← ExceptT.mk (pure r.chosenFormat)
  let (text, writer) := Writer.emit { format } compiled
  write text
  if !r.quiet then h.err (summary writer.count compiled.findings.length)

/-- What the version option shows. -/
def versionText : String := "rdf2dts 0.1.0\n"

/-- How the command is called. -/
def usageText : String :=
  "Usage: rdf2dts [OPTIONS] <INPUT>\n"

/-- What the help option shows. -/
def helpText : String :=
  "Compile an RDF ontology (N-Triples) into type declarations\n\n" ++ usageText ++ "
Arguments:
  <INPUT>  Path to an N-Triples ontology file

Options:
  -o, --output <FILE>      Output file path [default: stdout]
  -f, --format <FORMAT>    Output format: typescript, json [default: typescript]
  -c, --context <CONTEXT>  Naming context: a base URL, or comma-separated `prefix:url` entries
                           [default: https://schema.org]
      --deprecated         Include superseded classes and properties
  -v, --verbose            Verbose output
  -q, --quiet              Quiet output
  -h, --help               Print help
  -V, --version            Print version
"

/-- Runs the command; returns its exit code. -/
def invoke (h : Host m) (args : List String) : m UInt32 := do
  match Request.ofArgs args with
  | .error .version => h.out versionText; return 0
  | .error .help => h.out helpText; return 0
  | .error .usage => h.err usageText; return 2
  | .ok request =>
    match ← (request.run h).run with
    | .ok () => return 0
    | .error failure => h.err ("Error: " ++ failure.message ++ "\n"); return 1

end Ontotype.Command

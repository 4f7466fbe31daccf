import Ontotype.Text.Cut

set_option autoImplicit false

/-! # Command line arguments

Arguments are read from left to right, and the first one that decides the outcome does: a fault, or
the wish to see the version or the help. An option that takes a value has it attached, or in the
next argument, which may not look like an option; nothing may be given twice. -/

namespace Ontotype.Command

open Ontotype.Text

/-- What a run is asked to do. How much it logs is left out, and so is what asks for more of it. -/
structure Request where
  /-- The path of the ontology. -/
  input : String
  /-- The path to write to, if it is not the standard output. -/
  output : Option String := none
  format : String := "typescript"
  context : String := "https://schema.org"
  /-- Whether deprecated classes and properties are included. -/
  deprecated : Bool := false
  /-- Whether nothing is reported at the end. -/
  quiet : Bool := false
  deriving DecidableEq, Repr

/-- Why arguments are no request. -/
inductive Stop where
  | usage
  | version
  | help
  deriving DecidableEq, Repr

/-- The options that take a value. -/
inductive ValueOption where
  | output
  | format
  | context
  deriving DecidableEq, Repr

/-- The options that take none. -/
inductive Flag where
  | deprecated
  /-- To log more, which changes nothing else. -/
  | verbose
  | quiet
  deriving DecidableEq, Repr

/-- The arguments that have been given so far. -/
structure Given where
  input : Option String := none
  output : Option String := none
  format : Option String := none
  context : Option String := none
  flags : List Flag := []
  deriving DecidableEq, Repr

namespace Given

/-- Takes the path of the ontology. -/
def setInput (g : Given) (path : String) : Except Stop Given :=
  if g.input.isSome ∨ path = "" then .error .usage else .ok { g with input := some path }

/-- Takes the value of an option. A path may not be empty. -/
def setValue (g : Given) (o : ValueOption) (value : String) : Except Stop Given :=
  match o with
  | .output =>
    if g.output.isSome ∨ value = "" then .error .usage else .ok { g with output := some value }
  | .format => if g.format.isSome then .error .usage else .ok { g with format := some value }
  | .context => if g.context.isSome then .error .usage else .ok { g with context := some value }

/-- Takes an option without a value. -/
def setFlag (g : Given) (f : Flag) : Except Stop Given :=
  if f ∈ g.flags then .error .usage else .ok { g with flags := f :: g.flags }

/-- The request that arguments make, which need an input. -/
def request (g : Given) : Except Stop Request :=
  match g.input with
  | none => .error .usage
  | some input =>
    .ok
      { input
        output := g.output
        format := g.format.getD "typescript"
        context := g.context.getD "https://schema.org"
        deprecated := .deprecated ∈ g.flags
        quiet := .quiet ∈ g.flags }

/-! ## Options -/

/-- Reads letters behind a single hyphen. Letters of options without a value may be joined; the
    rest behind the letter of an option with a value is the value. Without a rest, that option is
    returned, and waits for its value. -/
def readLetters (g : Given) : List Char → Except Stop (Given × Option ValueOption)
  | [] => .ok (g, none)
  | c :: rest =>
    let value (o : ValueOption) : Except Stop (Given × Option ValueOption) :=
      match rest with
      | [] => .ok (g, some o)
      | '=' :: value => (g.setValue o (String.ofList value)).map (·, none)
      | value => (g.setValue o (String.ofList value)).map (·, none)
    match c with
    | 'V' => .error .version
    | 'h' => .error .help
    | 'q' => (g.setFlag .quiet).bind (·.readLetters rest)
    | 'v' => (g.setFlag .verbose).bind (·.readLetters rest)
    | 'o' => value .output
    | 'f' => value .format
    | 'c' => value .context
    | _ => .error .usage

/-- Reads an option with a value: attached, or still to come. -/
def readValue (g : Given) (o : ValueOption) (attached : Option (List Char)) :
    Except Stop (Given × Option ValueOption) :=
  match attached with
  | some value => (g.setValue o (String.ofList value)).map (·, none)
  | none => .ok (g, some o)

/-- Reads an option without a value. -/
def readFlag (g : Given) (f : Flag) (attached : Option (List Char)) :
    Except Stop (Given × Option ValueOption) :=
  match attached with
  | some _ => .error .usage
  | none => (g.setFlag f).map (·, none)

/-- Reads a word behind two hyphens, with what is attached to it by an equals sign. -/
def readWord (g : Given) (word : List Char) : Except Stop (Given × Option ValueOption) :=
  let (name, attached) := cut '=' word
  match String.ofList name with
  | "output" => g.readValue .output attached
  | "format" => g.readValue .format attached
  | "context" => g.readValue .context attached
  | "deprecated" => g.readFlag .deprecated attached
  | "verbose" => g.readFlag .verbose attached
  | "quiet" => g.readFlag .quiet attached
  | "version" => .error (if attached.isSome then .usage else .version)
  | "help" => .error (if attached.isSome then .usage else .help)
  | _ => .error .usage

/-! ## Arguments -/

/-- Whether an argument looks like an option. A single hyphen does not. -/
def looksLikeOption (arg : String) : Bool :=
  match arg.toList with
  | '-' :: _ :: _ => true
  | _ => false

/-- Reads the arguments that follow two hyphens alone, none of which is an option. -/
def readPaths (g : Given) : List String → Except Stop Given
  | [] => .ok g
  | arg :: rest => (g.setInput arg).bind (·.readPaths rest)

/-- Reads arguments. -/
def readArgs (g : Given) : List String → Except Stop Given
  | [] => .ok g
  | arg :: rest =>
    let option (read : Except Stop (Given × Option ValueOption)) : Except Stop Given :=
      match read, rest with
      | .error stop, _ => .error stop
      | .ok (g, none), rest => g.readArgs rest
      | .ok (_, some _), [] => .error .usage
      | .ok (g, some o), value :: rest =>
        if looksLikeOption value then .error .usage
        else (g.setValue o value).bind (·.readArgs rest)
    match arg.toList with
    | ['-', '-'] => g.readPaths rest
    | '-' :: '-' :: word => option (g.readWord word)
    | '-' :: c :: letters => option (g.readLetters (c :: letters))
    | _ => (g.setInput arg).bind (·.readArgs rest)

end Given

/-- The request that arguments make. -/
def Request.ofArgs (args : List String) : Except Stop Request :=
  (Given.readArgs {} args).bind Given.request

end Ontotype.Command

import Ontotype.Text.Cut
import Ontotype.Text.Utf8

set_option autoImplicit false

/-! # IRIs

An ontology names its classes, properties and values by IRIs. Two names are the same only if their
texts are; nothing is normalised.

A short name of an entity is made from its IRI: the IRI is split into the namespace that it lives
in and its local name, and the namespace is compared with the base URLs of a naming context.

The local name is the fragment if there is one that is not empty, and the last segment of the path
otherwise. Namespaces are compared without the slashes at their end; of scheme and authority the
case does not matter, and an `http:` name counts as a member of an `https:` namespace. -/

namespace Ontotype

/-- A name in an ontology. -/
structure Iri where
  text : String
  deriving DecidableEq, Repr, Inhabited

namespace Iri

open Ontotype.Text

/-- An IRI as messages show it, between angle brackets. -/
def shown (iri : Iri) : String := "<" ++ iri.text ++ ">"

/-! ## Comparing and trimming -/

/-- A path without the slashes at its end. -/
def trimSlashes (path : List Char) : List Char :=
  (path.reverse.dropWhile (· = '/')).reverse

/-- Whether two texts differ at most in the case of ASCII letters. -/
def sameIgnoringCase (a b : String) : Bool :=
  a.toList.map Char.toLower == b.toList.map Char.toLower

/-! ## Hierarchical IRIs -/

/-- What stands before the first `://`, and what follows it. -/
def cutScheme? : List Char → Option (List Char × List Char)
  | [] => none
  | ':' :: '/' :: '/' :: rest => some ([], rest)
  | c :: rest => (cutScheme? rest).map fun (scheme, after) => (c :: scheme, after)

/-- Whether a character ends the authority. -/
def endsAuthority (c : Char) : Bool := c = '/' || c = '?' || c = '#'

/-- Scheme, authority and all that follows of `scheme://authority…`. -/
def hierarchical? (cs : List Char) : Option (List Char × List Char × List Char) :=
  match cutScheme? cs with
  | some (scheme, rest) =>
    if scheme = [] then none
    else some (scheme, rest.takeWhile (!endsAuthority ·), rest.dropWhile (!endsAuthority ·))
  | none => none

/-! ## Namespace and local name -/

/-- The parts of an entity's IRI. The local name is still percent-encoded; it is empty if the path
    ends with a slash. -/
structure Parts where
  scheme : String
  authority : String
  namespacePath : String
  query : Option String
  localName : String
  deriving DecidableEq, Repr

/-- Splits what follows the authority: path of the namespace, query, local name. -/
def splitRest (rest : List Char) : List Char × Option (List Char) × List Char :=
  let (beforeFragment, fragment) := cut '#' rest
  let (path, query) := cut '?' beforeFragment
  match fragment with
  | some (c :: cs) => (trimSlashes path, query, c :: cs)
  | _ =>
    match cutLast? '/' path with
    | some (before, segment) => (trimSlashes before, query, segment)
    | none => ([], query, path)

/-- The parts of an IRI of the form `scheme://authority…`. -/
def parts? (iri : Iri) : Option Parts :=
  (hierarchical? iri.text.toList).map fun (scheme, authority, rest) =>
    let (path, query, name) := splitRest rest
    { scheme := String.ofList scheme
      authority := String.ofList authority
      namespacePath := String.ofList path
      query := query.map String.ofList
      localName := String.ofList name }

/-! ## Base URLs -/

/-- A namespace as a naming context gives it. -/
structure Base where
  scheme : String
  authority : String
  path : String
  query : Option String
  deriving DecidableEq, Repr

/-- Reads a base URL. Only a file has an empty authority; the fragment does not count. -/
def Base.ofUrl? (url : String) : Option Base :=
  match hierarchical? url.toList with
  | some (scheme, authority, rest) =>
    if authority = [] ∧ scheme ≠ "file".toList then none
    else
      let (path, query) := cut '?' (cut '#' rest).1
      some
        { scheme := String.ofList scheme
          authority := String.ofList authority
          path := String.ofList (trimSlashes path)
          query := query.map String.ofList }
  | none => none

/-- Whether an IRI with these parts is a member of the namespace at `base`. -/
def Parts.within (parts : Parts) (base : Base) : Bool :=
  (sameIgnoringCase parts.scheme base.scheme
      || sameIgnoringCase parts.scheme "http" && sameIgnoringCase base.scheme "https")
    && sameIgnoringCase parts.authority base.authority
    && parts.namespacePath == base.path
    && parts.query == base.query

/-! ## Names made from an IRI -/

/-- Whether a character separates the segments of an IRI of any form. -/
def separates (c : Char) : Bool := c = '/' || c = '#' || c = ':'

/-- The last segment that is not empty; the whole text if there is none. -/
def lastSegment (cs : List Char) : List Char :=
  match ((cs.reverse.dropWhile separates).takeWhile (!separates ·)).reverse with
  | [] => cs
  | segment => segment

/-- The local name of any IRI, decoded. Without a local name of its own, the IRI's last segment
    serves. -/
def localName (iri : Iri) : String :=
  Text.Percent.decode <|
    match iri.parts? with
    | some parts =>
      if parts.localName = "" then String.ofList (lastSegment iri.text.toList)
      else parts.localName
    | none => String.ofList (lastSegment iri.text.toList)

/-- Whether a character may stand in an identifier. -/
def isIdentifierChar (c : Char) : Bool := c.isAlphanum || c = '_'

/-- Makes a text an identifier: other characters become underscores, and one is put in front of a
    text that is empty or starts with a digit. -/
def identifierOf (cs : List Char) : List Char :=
  match cs.map fun c => if isIdentifierChar c then c else '_' with
  | [] => ['_']
  | c :: rest => if c.isDigit then '_' :: c :: rest else c :: rest

/-- The identifier that an entity is declared under. -/
def identifier (iri : Iri) : String :=
  String.ofList (identifierOf iri.localName.toList)

end Iri

end Ontotype

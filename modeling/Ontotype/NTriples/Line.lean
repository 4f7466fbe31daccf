import Ontotype.Iri.Absolute
import Ontotype.NTriples.LanguageTag
import Ontotype.Text.Cut

set_option autoImplicit false

/-! # The triples of a line

A line of N-Triples holds a triple, a comment, or nothing. Each reader takes the characters still to
be read and returns what it has read with the rest, or nothing if they do not start as they should.

A carriage return inside a line ends a triple or a comment as a line feed would, and is a fault
anywhere else; `segments` cuts a line after each of them, so that a reader still sees it. A triple
has been read once its dot has: a fault before the dot hides it, and what follows the dot does not.

A document asks for nothing but the list of triples and faults (`triples`), and is read in the same
way whatever gives that list. -/

namespace Ontotype.NTriples

open Ontotype.Text

/-! ## Escapes -/

/-- The character that hexadecimal digits name, if they name one. -/
def scalar? (digits : List Char) : Option Char :=
  (hexNumber? digits).bind fun n => if n.isValidChar then some (Char.ofNat n) else none

/-- An IRI with its escapes resolved. -/
def unescapeIri : List Char → Option (List Char)
  | [] => some []
  | '\\' :: 'u' :: a :: b :: c :: d :: rest =>
    (scalar? [a, b, c, d]).bind fun x => (unescapeIri rest).map (x :: ·)
  | '\\' :: 'U' :: a :: b :: c :: d :: e :: f :: g :: h :: rest =>
    (scalar? [a, b, c, d, e, f, g, h]).bind fun x => (unescapeIri rest).map (x :: ·)
  | '\\' :: _ => none
  | c :: rest => (unescapeIri rest).map (c :: ·)

/-- The character that a backslash and a letter stand for in a string. -/
def escaped? (c : Char) : Option Char :=
  match c with
  | 't' => some '\t'
  | 'b' => some '\x08'
  | 'n' => some '\n'
  | 'r' => some '\r'
  | 'f' => some '\x0c'
  | '"' => some '"'
  | '\'' => some '\''
  | '\\' => some '\\'
  | _ => none

/-! ## Tokens -/

/-- Leaves out spaces and tabs. -/
def skipBlanks (cs : List Char) : List Char := cs.dropWhile fun c => c = ' ' || c = '\t'

/-- Reads `<…>` around an absolute IRI. -/
def readIri : List Char → Option (List Char × List Char)
  | '<' :: rest =>
    match cut '>' rest with
    | (raw, some after) =>
      (unescapeIri raw).bind fun iri => if Iri.isAbsolute iri then some (iri, after) else none
    | (_, none) => none
  | _ => none

/-- Reads the rest of a string, up to its closing quote. -/
def readString : List Char → Option (List Char × List Char)
  | [] => none
  | '"' :: rest => some ([], rest)
  | '\\' :: 'u' :: a :: b :: c :: d :: rest =>
    (scalar? [a, b, c, d]).bind fun x => (readString rest).map fun (s, after) => (x :: s, after)
  | '\\' :: 'U' :: a :: b :: c :: d :: e :: f :: g :: h :: rest =>
    (scalar? [a, b, c, d, e, f, g, h]).bind fun x =>
      (readString rest).map fun (s, after) => (x :: s, after)
  | '\\' :: c :: rest =>
    (escaped? c).bind fun x => (readString rest).map fun (s, after) => (x :: s, after)
  | c :: rest =>
    if c = '\n' ∨ c = '\r' then none
    else (readString rest).map fun (s, after) => (c :: s, after)

/-- Characters that may start the label of a blank node, digits apart. -/
def labelStart : Ranges :=
  [(0x41, 0x5A), (0x5F, 0x5F), (0x61, 0x7A), (0xC0, 0xD6), (0xD8, 0xF6), (0xF8, 0x2FF),
   (0x370, 0x37D), (0x37F, 0x1FFF), (0x200C, 0x200D), (0x2070, 0x218F), (0x2C00, 0x2FEF),
   (0x3001, 0xD7FF), (0xF900, 0xFDCF), (0xFDF0, 0xFFFD), (0x10000, 0xEFFFF)]

/-- Characters that a label may hold beside those. -/
def labelMore : Ranges :=
  [(0x2D, 0x2D), (0xB7, 0xB7), (0x300, 0x36F), (0x203F, 0x2040)]

/-- Whether the label of a blank node may start with a character. -/
def startsLabel (c : Char) : Bool := labelStart.has c || c.isDigit

/-- Whether the label of a blank node may hold a character, dots apart. -/
def inLabel (c : Char) : Bool := startsLabel c || labelMore.has c

/-- Reads the rest of a label. A dot belongs to it only if more of the label follows, and something
    has to follow the label. -/
def readLabel : List Char → Option (List Char × List Char)
  | [] => none
  | c :: rest =>
    if c = '.' then
      match rest with
      | [] => none
      | d :: _ =>
        if inLabel d then (readLabel rest).map fun (label, after) => (c :: label, after)
        else some ([], c :: rest)
    else if inLabel c then (readLabel rest).map fun (label, after) => (c :: label, after)
    else some ([], c :: rest)

/-- Reads `_:` and the label of a blank node. -/
def readBlank : List Char → Option (List Char × List Char)
  | '_' :: ':' :: c :: rest =>
    if startsLabel c then (readLabel rest).map fun (label, after) => (c :: label, after) else none
  | _ => none

/-- Reads a language tag, which something has to follow. The tag counts in lower case. -/
def readLanguage (cs : List Char) : Option (List Char × List Char) :=
  let tag := (cs.takeWhile fun c => c.isAlpha || c = '-').map Char.toLower
  let after := cs.dropWhile fun c => c.isAlpha || c = '-'
  if isWellFormedTag tag ∧ [] ∉ pieces '-' tag ∧ after ≠ [] then some (tag, after) else none

/-- Reads the dot that ends a triple. A dot before a digit is no such dot. -/
def readDot : List Char → Option (List Char)
  | '.' :: [] => some []
  | '.' :: c :: rest => if c.isDigit then none else some (c :: rest)
  | _ => none

/-! ## Triples -/

/-- A subject or an object before compact references are recognised. -/
inductive Node where
  | iri (text : List Char)
  | blank (label : List Char)
  | literal (value : List Char) (language : Option (List Char))
  deriving DecidableEq, Repr

/-- Reads an IRI or a blank node. -/
def readSubject (cs : List Char) : Option (Node × List Char) :=
  match readIri cs with
  | some (iri, rest) => some (.iri iri, rest)
  | none => (readBlank cs).map fun (label, rest) => (.blank label, rest)

/-- Reads what may follow the string of a literal: a language or a datatype. The datatype has to be
    an IRI, and is not kept. -/
def readLiteralEnd (value rest : List Char) : Option (Node × List Char) :=
  match skipBlanks rest with
  | '@' :: cs =>
    (readLanguage cs).map fun (language, after) => (.literal value (some language), after)
  | '^' :: '^' :: cs => (readIri (skipBlanks cs)).map fun (_, after) => (.literal value none, after)
  | after => some (.literal value none, after)

/-- Reads an IRI, a blank node or a literal. -/
def readObject : List Char → Option (Node × List Char)
  | '"' :: cs => (readString cs).bind fun (value, rest) => readLiteralEnd value rest
  | cs => readSubject cs

/-- A triple as it is written. -/
structure Triple where
  subject : Node
  predicate : List Char
  object : Node
  deriving DecidableEq, Repr

/-- Reads a triple with its dot. -/
def readTriple (cs : List Char) : Option (Triple × List Char) := do
  let (subject, cs) ← readSubject cs
  let (predicate, cs) ← readIri (skipBlanks cs)
  let (object, cs) ← readObject (skipBlanks cs)
  let rest ← readDot (skipBlanks cs)
  some ({ subject, predicate, object }, rest)

/-- Whether nothing more stands before the end of the line: blanks, then perhaps a comment or the
    carriage return. -/
def atEnd (cs : List Char) : Bool :=
  match skipBlanks cs with
  | [] => true
  | c :: _ => c = '#' || c = '\r'

/-! ## Lines -/

/-- A line cut after each carriage return. -/
def segments : List Char → List (List Char)
  | [] => []
  | c :: rest =>
    if c = '\r' then [c] :: segments rest else consPiece c (segments rest)

/-- The triple in a segment of a line, if there is one, and `none` for a fault. -/
def readSegment (cs : List Char) : List (Option Triple) :=
  if atEnd cs then []
  else
    match readTriple (skipBlanks cs) with
    | none => [none]
    | some (triple, rest) => if atEnd rest then [some triple] else [some triple, none]

/-- The triples of a line, and `none` for each fault between them. -/
def triples (cs : List Char) : List (Option Triple) := (segments cs).flatMap readSegment

end Ontotype.NTriples

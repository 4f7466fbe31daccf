import Ontotype.Iri.Parts
import Ontotype.Json
import Ontotype.Text.Characters
import Ontotype.Text.Quoted

set_option autoImplicit false

/-! # Naming contexts

A naming context makes short names from IRIs. It is a list of entries, each a label and a base URL;
an entity takes the label of the first entry whose namespace it lives in. A context with a single
entry may leave out the label.

- `https://schema.org` names `https://schema.org/Thing` as `Thing`;
- `schema:https://schema.org` names it as `schema:Thing`. -/

namespace Ontotype

open Ontotype.Text

/-- A base URL and its label, which is empty in a default entry. -/
structure Context.Entry where
  label : String
  url : String
  deriving DecidableEq, Repr

/-- A naming context. -/
structure Context where
  entries : List Context.Entry
  deriving DecidableEq, Repr

/-- Why a list of entries is no naming context. -/
inductive ContextError where
  | invalidLabel (label entry : String)
  | noEntries
  | notAbsolute (url : String)
  | mixedDefault
  | duplicateLabel (label : String)
  deriving DecidableEq, Repr

/-- What an error says. -/
def ContextError.message : ContextError → String
  | .invalidLabel label entry =>
    "invalid prefix " ++ quoted label ++ " in entry " ++ quoted entry
  | .noEntries => "context must have at least one entry"
  | .notAbsolute url => quoted url ++ " is not an absolute URL"
  | .mixedDefault => "a default (unprefixed) entry cannot be combined with other entries"
  | .duplicateLabel label => "duplicate prefix " ++ quoted label

namespace Context

/-! ## Building contexts -/

/-- The context without entries, to which entries are added. -/
def empty : Context := ⟨[]⟩

/-- Adds an entry at the end. -/
def add (c : Context) (label url : String) : Context :=
  ⟨c.entries ++ [{ label := label, url := url }]⟩

/-- The context whose only entry is a default one. -/
def ofDefault (url : String) : Context := empty.add "" url

/-- The context that is used where none is given. -/
def standard : Context := ofDefault "https://schema.org"

/-! ## Validity -/

/-- The first entry that can not stand after the entries before it. -/
def findClash (before : List String) : List Entry → Except ContextError Unit
  | [] => .ok ()
  | e :: rest =>
    if e.label = "" then .error .mixedDefault
    else if e.label ∈ before then .error (.duplicateLabel e.label)
    else findClash (e.label :: before) rest

/-- Checks that there are entries, that they have base URLs, and that several of them have
    different labels. -/
def validate (c : Context) : Except ContextError Unit :=
  match c.entries with
  | [] => .error .noEntries
  | entries =>
    match entries.find? fun e => (Iri.Base.ofUrl? e.url).isNone with
    | some e => .error (.notAbsolute e.url)
    | none => if 1 < entries.length then findClash [] entries else .ok ()

/-! ## Reading contexts -/

/-- The words of a text, which commas and blanks separate. -/
def words (cs : List Char) : List (List Char) :=
  (pieces ',' (cs.map fun c => if isBlank c then ',' else c)).filter (· ≠ [])

/-- Whether a text can be a label: a letter or an underscore, then letters, digits, underscores
    and hyphens. -/
def isLabel : List Char → Bool
  | [] => false
  | c :: rest => (c.isAlpha || c = '_') && rest.all fun c => c.isAlphanum || c = '_' || c = '-'

/-- The entry that a word writes: labelled if what follows its first colon is a URL itself. -/
def readEntry (word : List Char) : Except ContextError Entry :=
  let plain : Entry := { label := "", url := String.ofList word }
  match cut ':' word with
  | (label, some url) =>
    if (Iri.cutScheme? url).isNone then .ok plain
    else if isLabel label then .ok { label := String.ofList label, url := String.ofList url }
    else .error (.invalidLabel (String.ofList label) (String.ofList word))
  | (_, none) => .ok plain

/-- Reads a context: a URL, or entries `label:url`. -/
def parse (text : String) : Except ContextError Context := do
  let entries ← (words text.toList).mapM readEntry
  let context : Context := ⟨entries⟩
  context.validate
  return context

/-! ## Using contexts -/

/-- The name of an entity: the local name, behind the label of its namespace; the IRI if it lives
    in none of the namespaces. -/
def scopedName (c : Context) (iri : Iri) : String :=
  match iri.parts? with
  | none => iri.text
  | some parts =>
    if parts.localName = "" then iri.text
    else
      match c.entries.find? fun e => (Iri.Base.ofUrl? e.url).any parts.within with
      | none => iri.text
      | some e =>
        let name := Percent.decode parts.localName
        if e.label = "" then name else e.label ++ ":" ++ name

/-- The value of `@context` in documents that use the names: the URL of a sole default entry, and
    an object with the labels as members otherwise. -/
def value (c : Context) : Json :=
  match c.entries with
  | [⟨"", url⟩] => .string url
  | entries => .sorted (entries.map fun e => (e.label, .string e.url))

end Context

end Ontotype

import Ontotype.Iri.Host
import Ontotype.Text.Characters

set_option autoImplicit false

/-! # Absolute IRIs

Which texts are absolute IRIs: a scheme, a hierarchical part, and optionally a query and a
fragment, each with the characters that it may hold or percent-encoded bytes. -/

namespace Ontotype.Iri

open Ontotype.Text

/-! ## Characters -/

/-- The characters beyond ASCII that may stand in every part. -/
def universal : Ranges :=
  [(0xA0, 0xD7FF), (0xF900, 0xFDCF), (0xFDF0, 0xFFEF), (0x10000, 0x1FFFD), (0x20000, 0x2FFFD),
   (0x30000, 0x3FFFD), (0x40000, 0x4FFFD), (0x50000, 0x5FFFD), (0x60000, 0x6FFFD),
   (0x70000, 0x7FFFD), (0x80000, 0x8FFFD), (0x90000, 0x9FFFD), (0xA0000, 0xAFFFD),
   (0xB0000, 0xBFFFD), (0xC0000, 0xCFFFD), (0xD0000, 0xDFFFD), (0xE1000, 0xEFFFD)]

/-- The private characters, which may stand in a query. -/
def privateUse : Ranges := [(0xE000, 0xF8FF), (0xF0000, 0xFFFFD), (0x100000, 0x10FFFD)]

/-- The ASCII characters without a meaning of their own, and the delimiters that any part may
    hold. -/
def isPlainAscii (c : Char) : Bool :=
  c.isAlphanum || "-._~!$&'()*+,;=".toList.contains c

/-- The characters that any part may hold. -/
def isPlain (c : Char) : Bool := isPlainAscii c || universal.has c

/-- Characters of the name of a user. -/
def isUserChar (c : Char) : Bool := isPlain c || c = ':'

/-- Characters of a path. -/
def isPathChar (c : Char) : Bool := isPlain c || c = '/' || c = ':' || c = '@'

/-- Characters of a fragment. -/
def isFragmentChar (c : Char) : Bool := isPathChar c || c = '?'

/-- Characters of a query. -/
def isQueryChar (c : Char) : Bool := isFragmentChar c || privateUse.has c

/-- Whether a text is made of allowed characters and percent-encoded bytes. -/
def allows (allowed : Char → Bool) : List Char → Bool
  | [] => true
  | '%' :: a :: b :: rest => isHexDigit a && isHexDigit b && allows allowed rest
  | c :: rest => allowed c && allows allowed rest

/-! ## Parts -/

/-- A letter, then letters, digits, `+`, `-` and `.`. -/
def isScheme : List Char → Bool
  | [] => false
  | c :: rest => c.isAlpha && rest.all fun c => c.isAlphanum || c = '+' || c = '-' || c = '.'

/-- An address of a future version: `v`, the version in hexadecimal, a dot, the address, which is
    in ASCII. -/
def isFutureAddress (cs : List Char) : Bool :=
  match cs with
  | c :: rest =>
    match cut '.' rest with
    | (version, some address) =>
      (c = 'v' || c = 'V') && version ≠ [] && version.all isHexDigit
        && address ≠ [] && address.all fun c => isPlainAscii c || c = ':'
    | (_, none) => false
  | [] => false

/-- What may follow an address in brackets: nothing, or a colon and digits. -/
def isHostEnd : List Char → Bool
  | [] => true
  | c :: digits => c = ':' && digits.all Char.isDigit

/-- A host, which may be empty, then optionally a colon and digits. -/
def isHost (cs : List Char) : Bool :=
  match cs with
  | '[' :: rest =>
    match cut ']' rest with
    | (address, some after) => (isFutureAddress address || isIpv6 address) && isHostEnd after
    | (_, none) => false
  | _ =>
    match cut ':' cs with
    | (host, some digits) => allows isPlain host && digits.all Char.isDigit
    | (host, none) => allows isPlain host

/-- The authority: optionally a user, then the host. -/
def isAuthority (cs : List Char) : Bool :=
  match cut '@' cs with
  | (user, some host) => allows isUserChar user && isHost host
  | (host, none) => isHost host

/-- What stands between the scheme and the query: a path, after two slashes and the authority if it
    starts with two slashes. -/
def isHierarchy : List Char → Bool
  | '/' :: '/' :: rest =>
    isAuthority (rest.takeWhile (· ≠ '/')) && allows isPathChar (rest.dropWhile (· ≠ '/'))
  | path => allows isPathChar path

/-- A part that may be absent. -/
def allowsOption (allowed : Char → Bool) : Option (List Char) → Bool
  | some cs => allows allowed cs
  | none => true

/-- An absolute IRI. -/
def isAbsolute (cs : List Char) : Bool :=
  match cut ':' cs with
  | (scheme, some rest) =>
    let (main, fragment) := cut '#' rest
    let (hierarchy, query) := cut '?' main
    isScheme scheme && isHierarchy hierarchy && allowsOption isQueryChar query
      && allowsOption isFragmentChar fragment
  | (_, none) => false

end Ontotype.Iri

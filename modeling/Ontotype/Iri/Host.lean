import Ontotype.Text.Cut
import Ontotype.Text.Characters

set_option autoImplicit false

/-! # Addresses as hosts

The host of an IRI may be an address in brackets. An IPv6 address has eight groups of one to four
hexadecimal digits; a pair of colons, used once, stands for one or more groups of zeros, and the
last two groups may be written as an IPv4 address. -/

namespace Ontotype.Iri

open Ontotype.Text

/-- What stands before and after the first pair of colons, if there is one. -/
def cutColons? : List Char → Option (List Char × List Char)
  | [] => none
  | ':' :: ':' :: rest => some ([], rest)
  | c :: rest => (cutColons? rest).map fun (before, after) => (c :: before, after)

/-- A number from 0 to 255 without leading zeros. -/
def isOctet (cs : List Char) : Bool :=
  match cs with
  | [] => false
  | ['0'] => true
  | c :: _ =>
    c ≠ '0' && cs.all Char.isDigit && cs.length ≤ 3
      && cs.foldl (fun n d => 10 * n + (d.toNat - 0x30)) 0 ≤ 255

/-- Four octets with dots between them. -/
def isIpv4 (cs : List Char) : Bool :=
  (pieces '.' cs).length = 4 && (pieces '.' cs).all isOctet

/-- One to four hexadecimal digits. -/
def isGroup (cs : List Char) : Bool :=
  1 ≤ cs.length && cs.length ≤ 4 && cs.all isHexDigit

/-- The number of groups that pieces between colons write, if they write groups. Only the last
    piece may be an IPv4 address, and only where `tail` says that the address ends there. -/
def groups? (tail : Bool) : List (List Char) → Option Nat
  | [] => some 0
  | [last] => if isGroup last then some 1 else if tail && isIpv4 last then some 2 else none
  | piece :: rest => if isGroup piece then (groups? tail rest).map (1 + ·) else none

/-- The number of groups in one half of an address; an empty half has none. -/
def groupCount? (tail : Bool) (cs : List Char) : Option Nat :=
  if cs = [] then some 0 else groups? tail (pieces ':' cs)

/-- An IPv6 address. -/
def isIpv6 (cs : List Char) : Bool :=
  match cutColons? cs with
  | none => groups? true (pieces ':' cs) = some 8
  | some (front, back) =>
    match groupCount? false front, groupCount? true back with
    | some n, some m => n + m ≤ 7
    | _, _ => false

end Ontotype.Iri

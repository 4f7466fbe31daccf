import Ontotype.Text.Characters

set_option autoImplicit false

/-! # Texts as bytes

Bytes are read one at a time. The reader stands between two characters or inside one; inside, it
knows how many bytes are owed, the bits read so far, and the range the next byte must lie in, which
excludes overlong forms, surrogates and values above U+10FFFF at the earliest byte that decides.

`decode` gives an entry per character, and an entry `none` per fault. A fault covers the bytes read
since the last character, and the byte that shows it is read again as the first of a character: so
faults are the maximal ill-formed subparts of the Unicode standard. `decodeLossy` puts a
replacement character for each fault, and `decodeStrict?` accepts only texts without one.

In a percent-encoded text, a percent sign and two hexadecimal digits stand for a byte. Every other
character, a percent sign without its digits among them, stands for the bytes that encode it. The
bytes are read as UTF-8, with a replacement character for each fault. -/

namespace Ontotype.Text.Utf8

/-- Where the reader stands. -/
inductive State where
  | between
  | inside (owed bits low high : Nat)
  deriving DecidableEq, Repr

/-- The first byte of a character: what it completes, and where it leaves the reader. -/
def first (b : Nat) : List (Option Char) × State :=
  if b ≤ 0x7F then ([some (Char.ofNat b)], .between)
  else if b ≤ 0xC1 then ([none], .between)
  else if b ≤ 0xDF then ([], .inside 1 (b - 0xC0) 0x80 0xBF)
  else if b = 0xE0 then ([], .inside 2 0 0xA0 0xBF)
  else if b = 0xED then ([], .inside 2 0xD 0x80 0x9F)
  else if b ≤ 0xEF then ([], .inside 2 (b - 0xE0) 0x80 0xBF)
  else if b = 0xF0 then ([], .inside 3 0 0x90 0xBF)
  else if b ≤ 0xF3 then ([], .inside 3 (b - 0xF0) 0x80 0xBF)
  else if b = 0xF4 then ([], .inside 3 4 0x80 0x8F)
  else ([none], .between)

/-- One byte: the characters and faults it completes, and where it leaves the reader. -/
def step : State → Nat → List (Option Char) × State
  | .between, b => first b
  | .inside owed bits low high, b =>
    if low ≤ b ∧ b ≤ high then
      let bits := bits * 64 + (b - 0x80)
      if owed = 1 then ([some (Char.ofNat bits)], .between)
      else ([], .inside (owed - 1) bits 0x80 0xBF)
    else (none :: (first b).1, (first b).2)

/-- Reads bytes from a state on. What has been read before stands in `out`, the last first; to end
    inside a character is a fault. -/
def run (out : List (Option Char)) : State → List UInt8 → List (Option Char)
  | .between, [] => out.reverse
  | .inside .., [] => (none :: out).reverse
  | q, b :: rest => run ((step q b.toNat).1.reverse ++ out) (step q b.toNat).2 rest

/-- The characters that bytes encode, with `none` for each fault. -/
def decode (bytes : List UInt8) : List (Option Char) := run [] .between bytes

/-- The text that bytes encode, with U+FFFD for each fault. -/
def decodeLossy (bytes : List UInt8) : List Char :=
  (decode bytes).map (·.getD '\uFFFD')

/-- The text that bytes encode, if they are without fault. -/
def decodeStrict? (bytes : List UInt8) : Option (List Char) := (decode bytes).mapM id

end Ontotype.Text.Utf8

namespace Ontotype.Text.Percent

/-- The bytes that a percent-encoded text stands for. -/
def bytes : List Char → List UInt8
  | [] => []
  | '%' :: a :: b :: rest =>
    match hexValue? a, hexValue? b with
    | some high, some low => UInt8.ofNat (16 * high + low) :: bytes rest
    | _, _ => String.utf8EncodeChar '%' ++ bytes (a :: b :: rest)
  | c :: rest => String.utf8EncodeChar c ++ bytes rest

/-- The text that a percent-encoded text stands for. -/
def decode (s : String) : String :=
  String.ofList (Utf8.decodeLossy (bytes s.toList))

end Ontotype.Text.Percent

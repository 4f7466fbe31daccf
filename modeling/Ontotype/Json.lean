import Ontotype.Text.Characters

set_option autoImplicit false

/-! # JSON values and their compact text

The values that output is made of, and their one written form: no blanks between tokens, and in a
string only the quote, the backslash and the controls below U+0020 escaped. The members of an
object are written in the order in which the object holds them; `Json.sorted` builds an object
that holds them by name. -/

namespace Ontotype

/-- A JSON value; the members of an object have an order. -/
inductive Json where
  | null
  | bool (value : Bool)
  | number (value : Int)
  | string (value : String)
  | array (items : List Json)
  | object (members : List (String × Json))
  deriving Repr, Inhabited

namespace Json

/-! ## Strings -/

/-- A character inside a string. -/
def escape (c : Char) : List Char :=
  match c with
  | '"' => ['\\', '"']
  | '\\' => ['\\', '\\']
  | '\x08' => ['\\', 'b']
  | '\x0c' => ['\\', 'f']
  | '\n' => ['\\', 'n']
  | '\r' => ['\\', 'r']
  | '\t' => ['\\', 't']
  | c =>
    if c.toNat < 0x20 then
      ['\\', 'u', '0', '0', Nat.digitChar (c.toNat / 16), Nat.digitChar (c.toNat % 16)]
    else [c]

/-- A text as a string token, in characters. -/
def quoteChars (cs : List Char) : List Char := '"' :: cs.flatMap escape ++ ['"']

/-- A text as a string token. -/
def quote (s : String) : String := String.ofList (quoteChars s.toList)

/-! ## Values -/

mutual

/-- The characters of a value's text. -/
def chars : Json → List Char
  | .null => "null".toList
  | .bool true => "true".toList
  | .bool false => "false".toList
  | .number n => (toString n).toList
  | .string s => quoteChars s.toList
  | .array items => '[' :: itemChars true items ++ [']']
  | .object members => '\x7b' :: memberChars true members ++ ['\x7d']

/-- The items of an array, with a comma before each but the first of all. -/
def itemChars (first : Bool) : List Json → List Char
  | [] => []
  | item :: rest => (if first then [] else [',']) ++ chars item ++ itemChars false rest

/-- The members of an object, with a comma before each but the first of all. -/
def memberChars (first : Bool) : List (String × Json) → List Char
  | [] => []
  | (name, value) :: rest =>
    (if first then [] else [',']) ++ quoteChars name.toList ++ ':' :: chars value
      ++ memberChars false rest

end

/-- The text of a value. -/
def text (j : Json) : String := String.ofList j.chars

/-! ## Objects by name -/

/-- Puts a member in its place by name; an earlier one of the same name gives way. -/
def insertMember (name : String) (value : Json) : List (String × Json) → List (String × Json)
  | [] => [(name, value)]
  | (n, v) :: rest =>
    match compare name n with
    | .lt => (name, value) :: (n, v) :: rest
    | .eq => (name, value) :: rest
    | .gt => (n, v) :: insertMember name value rest

/-- The object with the given members in the order of their names; of two members with one name
    the later one counts. -/
def sorted (members : List (String × Json)) : Json :=
  .object (members.foldl (fun acc m => insertMember m.1 m.2 acc) [])

/-- A text that may be absent, which is written as null. -/
def ofOption : Option String → Json
  | some s => .string s
  | none => .null

/-- A list of texts. -/
def strings (ss : List String) : Json := .array (ss.map .string)

end Json

end Ontotype

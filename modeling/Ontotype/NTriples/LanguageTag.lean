import Ontotype.Text.Cut

set_option autoImplicit false

/-! # Language tags

Which tags of letters and hyphens are well-formed by BCP 47. A tag is a language with its
extensions, script, region and variants in this order, then extensions behind single letters, then
private subtags behind an `x`; or it is private altogether; or it is one of the grandfathered tags.
No subtag has more than eight letters, be it private or not. Tags with digits are not read at all,
so no rule for them is needed. -/

namespace Ontotype.NTriples

open Ontotype.Text

/-- The grandfathered tags, in lower case. -/
def grandfathered : List String :=
  ["art-lojban", "cel-gaulish", "en-gb-oed", "i-ami", "i-bnn", "i-default", "i-enochian", "i-hak",
   "i-klingon", "i-lux", "i-mingo", "i-navajo", "i-pwn", "i-tao", "i-tay", "i-tsu", "no-bok",
   "no-nyn", "sgn-be-fr", "sgn-be-nl", "sgn-ch-de", "zh-guoyu", "zh-hakka", "zh-min", "zh-min-nan",
   "zh-xiang"]

/-- What the subtags read so far end with. -/
inductive TagPart where
  /-- A short language and this number of extended languages. -/
  | language (extended : Nat)
  /-- A language that takes no extended ones. -/
  | longLanguage
  | script
  /-- A region or a variant. -/
  | region
  /-- The letter that opens an extension. -/
  | singleton
  | extension
  /-- The `x` that opens the private part. -/
  | privateMark
  | privatePart
  deriving DecidableEq, Repr

/-- Whether a tag may end after a part. -/
def TagPart.mayEnd : TagPart → Bool
  | .singleton | .privateMark => false
  | _ => true

/-- The part that a subtag in lower case is when it follows another one. -/
def TagPart.next? (part : TagPart) (subtag : List Char) : Option TagPart :=
  let size := subtag.length
  if size = 0 ∨ 8 < size then none
  else
    match part with
    | .privateMark | .privatePart => some .privatePart
    | .singleton => if size = 1 then none else some .extension
    | _ =>
      if subtag = ['x'] then some .privateMark
      else if size = 1 then some .singleton
      else
        match part with
        | .language extended =>
          if size = 3 then if extended < 3 then some (.language (extended + 1)) else none
          else if size = 4 then some .script
          else some .region
        | .longLanguage =>
          if size = 4 then some .script else if size = 3 then none else some .region
        | .script => if size = 3 ∨ size = 4 then none else some .region
        | .region => if 5 ≤ size then some .region else none
        | _ => some .extension

/-- Whether subtags may follow a part and end the tag. -/
def TagPart.closes (part : TagPart) : List (List Char) → Bool
  | [] => part.mayEnd
  | subtag :: rest => (part.next? subtag).any (·.closes rest)

/-- Whether subtags in lower case form a tag that starts with a language. -/
def startsWithLanguage : List (List Char) → Bool
  | [] => false
  | language :: rest =>
    let size := language.length
    2 ≤ size && size ≤ 8
      && (if size < 4 then TagPart.language 0 else TagPart.longLanguage).closes rest

/-- Whether a tag in lower case is well-formed. -/
def isWellFormedTag (tag : List Char) : Bool :=
  grandfathered.contains (String.ofList tag)
    || match pieces '-' tag with
      | ['x'] :: rest => TagPart.privateMark.closes rest
      | subtags => startsWithLanguage subtags

end Ontotype.NTriples

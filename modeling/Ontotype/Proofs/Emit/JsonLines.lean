import Ontotype.Emit.Writer
import Ontotype.Proofs.JsonText

set_option autoImplicit false

/-! # JSON lines say everything

A compiled ontology can be told from the JSON lines that are written for it: every value that stands
for a part of a declaration or of the helper declarations can be told from the values that stand for
others of that kind, and a line from the text that follows. -/

namespace Ontotype

namespace Json

theorem ofOption_injective : Function.Injective ofOption := by
  rintro (_ | s) (_ | s') h <;> simp_all [ofOption]

theorem strings_injective : Function.Injective strings := by
  intro ss ss' h
  have hstring : Function.Injective Json.string := fun _ _ => Json.string.inj
  exact hstring.list_map (Json.array.inj h)

end Json

namespace JsonLines

open Json

/-! ## Declarations -/

theorem kindName_injective : Function.Injective kindName := by
  rintro (_ | _) (_ | _) h <;> first | rfl | exact absurd h (by decide)

theorem helperName_injective : Function.Injective helperName := by
  rintro (_ | _) (_ | _) h <;> first | rfl | exact absurd h (by decide)

theorem name_injective : Function.Injective Primitive.name := by
  rintro (_ | _) (_ | _) h <;> first | rfl | exact absurd h (by decide)

theorem typeRef_injective : Function.Injective typeRef := by
  intro t t' h
  cases t <;> cases t' <;> simp [typeRef] at h
  · rw [name_injective h]
  · rw [h]
  · rw [h]
  · rfl

theorem heritage_injective : Function.Injective heritage := by
  intro t t' h
  cases t <;> cases t' <;> simp [heritage] at h
  · rw [strings_injective h]
  · rfl

theorem member_injective : Function.Injective member := by
  intro ⟨⟨iri⟩, key, comment, deprecated, range⟩ ⟨⟨iri'⟩, key', comment', deprecated', range'⟩ h
  simpa [member, ofOption_injective.eq_iff, typeRef_injective.list_map.eq_iff] using h

theorem base_injective : Function.Injective base := by
  intro ⟨name, heritage, members⟩ ⟨name', heritage', members'⟩ h
  simpa [base, heritage_injective.eq_iff, member_injective.list_map.eq_iff] using h

theorem leaf_injective : Function.Injective leaf := by
  intro ⟨name, bases, discriminator⟩ ⟨name', bases', discriminator'⟩ h
  simpa [leaf, strings_injective.eq_iff] using h

theorem enumMember_injective : Function.Injective enumMember := by
  intro ⟨⟨iri⟩, scopedName, comment, literals⟩ ⟨⟨iri'⟩, scopedName', comment', literals'⟩ h
  simpa [enumMember, ofOption_injective.eq_iff, strings_injective.eq_iff] using h

/-- What may be absent is written as null, and nothing else is. -/
theorem getD_null_injective {α : Type} {f : α → Json} (hf : Function.Injective f)
    (hnull : ∀ a, f a ≠ .null) : Function.Injective fun a : Option α => (a.map f).getD .null := by
  rintro (_ | a) (_ | a') h
  · rfl
  · exact absurd h.symm (hnull a')
  · exact absurd h (hnull a)
  · exact congrArg some (hf h)

theorem declaration_injective : Function.Injective declaration := by
  intro ⟨⟨iri⟩, scopedName, ident, kind, comment, deprecated, parents, base, leaf, total, members⟩
    ⟨⟨iri'⟩, scopedName', ident', kind', comment', deprecated', parents', base', leaf', total',
      members'⟩ h
  have hbase := (getD_null_injective base_injective nofun).eq_iff (a := base) (b := base')
  have hleaf := (getD_null_injective leaf_injective nofun).eq_iff (a := leaf) (b := leaf')
  simpa [declaration, kindName_injective.eq_iff, ofOption_injective.eq_iff,
    strings_injective.eq_iff, hbase, hleaf, typeRef_injective.list_map.eq_iff,
    enumMember_injective.list_map.eq_iff] using h

/-! ## Helper declarations -/

theorem preamble_eq (h : Preamble) :
    preamble h = .object
      [("context", h.context),
       ("has_role", .bool h.hasRole),
       ("kinds", .array (h.kinds.map fun k => .string (helperName k))),
       ("root", .ofOption h.root)] := by
  have hkinds : compare "has_role" "kinds" = .lt := by decide
  have hcontext : compare "context" "has_role" = .lt := by decide
  have hroot : compare "root" "context" = .gt ∧ compare "root" "has_role" = .gt ∧
      compare "root" "kinds" = .gt := by decide
  simp [preamble, sorted, insertMember, hkinds, hcontext, hroot]

theorem preamble_injective : Function.Injective preamble := by
  have hhelper : Function.Injective fun k => Json.string (helperName k) := fun _ _ h =>
    helperName_injective (Json.string.inj h)
  intro ⟨kinds, hasRole, context, root⟩ ⟨kinds', hasRole', context', root'⟩ h
  simp only [preamble_eq] at h
  simp [hhelper.list_map.eq_iff, ofOption_injective.eq_iff] at h
  simp [h]

end JsonLines

/-! ## Texts -/

/-- The values that are written for a compiled ontology, each on a line of its own. -/
def Compiled.jsonValues (c : Compiled) : List Json :=
  .object [("helpers", JsonLines.preamble c.preamble)] :: c.declarations.map JsonLines.declaration

/-- The JSON lines of a compiled ontology. -/
def Compiled.jsonLines (c : Compiled) : String := (Writer.emit { format := .jsonLines } c).1

theorem jsonLines_eq_unlines (c : Compiled) :
    c.jsonLines = Text.unlines (c.jsonValues.map Json.text) := by
  have hdeclarations : ∀ (ds : List Declaration) (w : Writer), w.format = .jsonLines →
      (w.declarations ds).1 = Text.unlines ((ds.map JsonLines.declaration).map Json.text) := by
    intro ds
    induction ds with
    | nil => exact fun _ _ => rfl
    | cons d ds ih =>
        intro w hw
        have hrest := ih (w.declaration d).2 hw
        simp only [Writer.declaration, hw] at hrest
        simp only [Writer.declarations, Writer.declaration, hw, hrest]
        rfl
  rw [Compiled.jsonValues, List.map_cons, Text.unlines, ← hdeclarations _
    { format := .jsonLines } rfl]
  rfl

/-- Values on lines of their own can be told from the text of the lines. -/
theorem Json.eq_of_unlines : ∀ {js js' : List Json},
    Text.unlines (js.map Json.text) = Text.unlines (js'.map Json.text) → js = js'
  | [], [], _ => rfl
  | [], j' :: js', h => by
      have hlist := congrArg String.toList h
      simp [Text.unlines] at hlist
  | j :: js, [], h => by
      have hlist := congrArg String.toList h
      simp [Text.unlines] at hlist
  | j :: js, j' :: js', h => by
      have hlist : j.chars ++ '\n' :: (Text.unlines (js.map Json.text)).toList =
          j'.chars ++ '\n' :: (Text.unlines (js'.map Json.text)).toList := by
        simpa [Text.unlines, Json.text] using congrArg String.toList h
      obtain ⟨rfl, hrest⟩ :=
        Json.eq_of_chars_append (Json.ends_cons (by decide)) (Json.ends_cons (by decide)) hlist
      rw [Json.eq_of_unlines (String.toList_injective (List.cons.inj hrest).2)]

/-- **JSON lines are faithful.** A compiled ontology with `n` declarations is written as `1 + n`
    lines, each without a line break of its own, and two compiled ontologies are written as the same
    text if and only if they have the same helper declarations and the same declarations. -/
theorem jsonLines_faithful (c c' : Compiled) :
    (∃ lines, c.jsonLines = Text.unlines lines ∧
      lines.length = 1 + c.declarations.length ∧ ∀ l ∈ lines, '\n' ∉ l.toList) ∧
    (c.jsonLines = c'.jsonLines ↔
      c.preamble = c'.preamble ∧ c.declarations = c'.declarations) := by
  refine ⟨⟨_, jsonLines_eq_unlines c, ?_, ?_⟩, ?_, ?_⟩
  · simp [Compiled.jsonValues, Nat.add_comm]
  · intro l hl
    obtain ⟨j, _, rfl⟩ := List.mem_map.1 hl
    rw [Json.text, String.toList_ofList]
    exact Json.not_mem_chars j
  · intro h
    rw [jsonLines_eq_unlines, jsonLines_eq_unlines] at h
    obtain ⟨hpreamble, hdeclarations⟩ := List.cons.inj (Json.eq_of_unlines h)
    refine ⟨JsonLines.preamble_injective ?_,
      JsonLines.declaration_injective.list_map hdeclarations⟩
    simpa using hpreamble
  · rintro ⟨hpreamble, hdeclarations⟩
    rw [jsonLines_eq_unlines, jsonLines_eq_unlines, Compiled.jsonValues, Compiled.jsonValues,
      hpreamble, hdeclarations]

end Ontotype

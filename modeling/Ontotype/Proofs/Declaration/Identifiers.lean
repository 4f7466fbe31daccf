import Ontotype.Proofs.Declaration.References

set_option autoImplicit false

/-! # Identifiers

Whatever the IRI of a class looks like, the identifier made from it consists of letters, digits and
underscores, and does not start with a digit; so do all names that are made from identifiers
(`isIdentifier_of_mem_names`). -/

namespace Ontotype

open Ontotype.Text

variable {o : Options} {ss : List Statement} {r : Compiled} {D : Declaration} {g : Graph}
  {c : ClassId} {n : String}

/-! ## Identifiers of entities -/

/-- A letter or an underscore, then letters, digits and underscores. -/
def IsIdentifier (s : String) : Prop :=
  ∃ c rest, s.toList = c :: rest ∧ (c.isAlpha = true ∨ c = '_') ∧
    ∀ x ∈ rest, Iri.isIdentifierChar x = true

theorem IsIdentifier.all {s : String} (h : IsIdentifier s) :
    ∀ x ∈ s.toList, Iri.isIdentifierChar x = true := by
  obtain ⟨c, rest, heq, hc, hrest⟩ := h
  rw [heq, List.forall_mem_cons]
  refine ⟨?_, hrest⟩
  rcases hc with hc | rfl
  · simp [Iri.isIdentifierChar, Char.isAlphanum, hc]
  · rfl

theorem IsIdentifier.append {s t : String} (h : IsIdentifier s)
    (ht : t.toList.all Iri.isIdentifierChar = true) : IsIdentifier (s ++ t) := by
  obtain ⟨c, rest, hs, hc, hrest⟩ := h
  refine ⟨c, rest ++ t.toList, by rw [String.toList_append, hs]; rfl, hc, fun x hx => ?_⟩
  exact (List.mem_append.1 hx).elim (hrest x) (List.all_eq_true.1 ht x)

/-- Every entity is declared under an identifier. -/
theorem isIdentifier_identifier (iri : Iri) : IsIdentifier iri.identifier := by
  have hchar : ∀ c : Char, Iri.isIdentifierChar (if Iri.isIdentifierChar c then c else '_') := by
    intro c
    split
    · next hc => exact hc
    · rfl
  have hall : ∀ x ∈ iri.localName.toList.map fun c => if Iri.isIdentifierChar c then c else '_',
      Iri.isIdentifierChar x = true := by
    simp only [List.forall_mem_map]
    exact fun c _ => hchar c
  rw [Iri.identifier, Iri.identifierOf]
  generalize iri.localName.toList.map
    (fun c => if Iri.isIdentifierChar c then c else '_') = cs at hall ⊢
  cases cs with
  | nil => exact ⟨'_', [], rfl, Or.inr rfl, by simp⟩
  | cons c rest =>
      rw [List.forall_mem_cons] at hall
      dsimp only
      split
      · exact ⟨'_', c :: rest, String.toList_ofList, Or.inr rfl, List.forall_mem_cons.2 hall⟩
      · next hdigit =>
          refine ⟨c, rest, String.toList_ofList, ?_, hall.2⟩
          have hc := hall.1
          simp only [Iri.isIdentifierChar, Char.isAlphanum, Bool.or_eq_true,
            decide_eq_true_eq] at hc
          exact hc.imp_left fun hc => hc.resolve_right hdigit

/-! ## Names in declarations -/

/-- The name that a reference to a declaration is written as. -/
def TypeRef.name? : TypeRef → Option String
  | .named ident => some ident
  | _ => none

/-- The names that stand in a base. -/
def Base.names (b : Base) : List String :=
  b.name :: b.heritage.names ++ b.members.flatMap fun m => m.range.filterMap TypeRef.name?

/-- The names that stand in a leaf. -/
def Leaf.names (l : Leaf) : List String := l.name :: l.bases

/-- The names that stand in a declaration. -/
def Declaration.names (d : Declaration) : List String :=
  (d.base.map Base.names).getD [] ++ (d.leaf.map Leaf.names).getD []
    ++ d.ident :: d.total.filterMap TypeRef.name?

theorem TypeRef.mem_filterMap_name? {types : List TypeRef} :
    n ∈ types.filterMap TypeRef.name? ↔ .named n ∈ types := by
  rw [List.mem_filterMap]
  constructor
  · rintro ⟨t, ht, hname⟩
    cases t with
    | named m => exact Option.some.inj hname ▸ ht
    | _ => exact absurd hname (by simp [TypeRef.name?])
  · exact fun h => ⟨_, h, rfl⟩

/-- The name of a base is an identifier. -/
theorem Layout.Arises.isIdentifier_of_hasBase {l : Layout} (h : Arises g l) (hn : l.HasBase n) :
    IsIdentifier n := by
  obtain ⟨c, s, hc, hbase⟩ := hn
  rw [Shape.eq_baseName hbase, Shape.baseName, (h.shape_of_class hc).2.1]
  exact (isIdentifier_identifier _).append (by decide)

namespace Resolver

variable {context : Context} {includeDeprecated : Bool}

theorem isIdentifier_of_mem_base (hg : g.InRange) (hc : c ∈ g.ids) {b : Base}
    (hb : ((ofGraph g context includeDeprecated).declaration c).base = some b)
    (hn : n ∈ b.names) : IsIdentifier n := by
  obtain ⟨s, hs, hname, hnames, hmembers⟩ := lookup_of_base hg hc hb
  have harises := (layout_arises hg).1
  rw [Base.names, List.cons_append, List.mem_cons, List.mem_append, List.mem_flatMap] at hn
  rcases hn with rfl | hn | ⟨m, hm, hn⟩
  · exact harises.isIdentifier_of_hasBase ⟨c, s, hs, hname⟩
  · exact harises.isIdentifier_of_hasBase (harises.hasBase_of_inherited hs (hnames ▸ hn))
  · obtain ⟨d, _, rfl⟩ := named_mem_range hg (hmembers ▸ hm) (TypeRef.mem_filterMap_name?.1 hn)
    exact isIdentifier_identifier _

theorem isIdentifier_of_mem_leaf (hg : g.InRange) (hc : c ∈ g.ids) {l : Leaf}
    (hl : ((ofGraph g context includeDeprecated).declaration c).leaf = some l)
    (hn : n ∈ l.names) : IsIdentifier n := by
  obtain ⟨harises, hsettled⟩ := layout_arises hg
  obtain ⟨s, hs⟩ := Layout.settled_iff.1 (hsettled c hc)
  have hshape : (ofGraph g context includeDeprecated).layout.shape c = s :=
    Layout.shape_of_lookup hs
  have hbases := (leaf_spec (leaf_of_declaration hl).2).2
  rw [hshape] at hbases
  rcases List.mem_cons.1 hn with rfl | hn
  · rw [name_of_leaf hg hc hl]
    exact (isIdentifier_identifier _).append (by decide)
  · rw [hbases, ← Layout.references_of_lookup hs] at hn
    obtain ⟨a, t, _, ha, hbase⟩ := harises.base_of_passed_on hn
    exact harises.isIdentifier_of_hasBase ⟨a, t, ha, hbase⟩

end Resolver

/-- All names that stand in declarations are identifiers. -/
theorem isIdentifier_of_mem_names (h : compile o ss = .ok r) (hD : D ∈ r.declarations)
    (hn : n ∈ D.names) : IsIdentifier n := by
  have hp := portrays_of_compile h
  have hg := hp.inRange
  rw [(compiled_of_compile h).2.1, mem_declarationsOf] at hD
  obtain ⟨c, hc, _, rfl⟩ := hD
  rw [Declaration.names, List.mem_append, List.mem_append, List.mem_cons] at hn
  rcases hn with (hn | hn) | rfl | hn
  · cases hb : ((Resolver.ofGraph r.graph o.context o.includeDeprecated).declaration c).base with
    | none => exact absurd hn (by simp [hb])
    | some b => exact Resolver.isIdentifier_of_mem_base hg hc hb (by simpa [hb] using hn)
  · cases hl : ((Resolver.ofGraph r.graph o.context o.includeDeprecated).declaration c).leaf with
    | none => exact absurd hn (by simp [hl])
    | some l => exact Resolver.isIdentifier_of_mem_leaf hg hc hl (by simpa [hl] using hn)
  · exact isIdentifier_identifier _
  · rcases Resolver.named_mem_total hg hc hp.aliases_primitive
      (TypeRef.mem_filterMap_name?.1 hn) with ⟨d, _, rfl⟩ | ⟨l, hl, rfl⟩
    · exact isIdentifier_identifier _
    · exact Resolver.isIdentifier_of_mem_leaf hg hc hl List.mem_cons_self

theorem isIdentifier_of_root (h : compile o ss = .ok r) (hn : r.preamble.root = some n) :
    IsIdentifier n := by
  rw [(compiled_of_compile h).2.2, Preamble.ofGraph, Option.map_eq_some_iff] at hn
  obtain ⟨c, _, rfl⟩ := hn
  exact isIdentifier_identifier _

/-- The values of a property are not given by their texts. -/
theorem literal_notMem_range (h : compile o ss = .ok r) (hD : D ∈ r.declarations) {b : Base}
    (hb : D.base = some b) {m : Member} (hm : m ∈ b.members) (text : String) :
    .literal text ∉ m.range := by
  rw [(compiled_of_compile h).2.1, mem_declarationsOf] at hD
  obtain ⟨c, _, _, rfl⟩ := hD
  rw [(Resolver.base_spec (Resolver.base_of_declaration hb)).2.2, Resolver.members,
    mem_sortWith, List.mem_map] at hm
  obtain ⟨_, _, rfl⟩ := hm
  rw [Resolver.member, Graph.rangeType, List.mem_append, List.mem_map]
  rintro (⟨_, _, heq⟩ | hmem)
  · exact absurd heq (by simp)
  · split at hmem
    · exact absurd (List.mem_singleton.1 hmem) (by simp)
    · exact absurd hmem List.not_mem_nil

end Ontotype

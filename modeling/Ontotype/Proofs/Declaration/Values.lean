import Ontotype.Declaration.Resolve
import Ontotype.Proofs.Assembly.Portrait

set_option autoImplicit false

/-! # Enumeration values of a class

The values of a class are the subjects that are declared to be of it, each once
(`Portrays.mem_iris_enumMembers`). A value is spelt in up to three ways (`Spells`), and what is
listed of it is what it is spelt as. -/

namespace Ontotype

open Vocabulary

variable {edition : Edition} {ss : List Statement} {g : Graph} {context : Context}
  {includeDeprecated : Bool} {a b : Iri} {c : ClassId} {v : ValueId} {x : String}

/-! ## What is said -/

/-- The subject `a` is declared to be a value of the class `b`. -/
def IsValueOf (ss : List Statement) (a b : Iri) : Prop :=
  Says ss a .type b ∧ b.isMetaType = false

/-- The text stands for `a`: it is the IRI, the IRI with `https:` in place of `http:`, or the name
    that the context gives to it. -/
def Spells (context : Context) (a : Iri) (x : String) : Prop :=
  x = a.text ∨ (∃ rest, a.text = "http:" ++ rest ∧ x = "https:" ++ rest) ∨ x = context.scopedName a

/-! ## Spellings -/

namespace Resolver

variable {r : Resolver}

/-- The `https:` form of an `http:` IRI. -/
def securedText (iri : Iri) : List String :=
  match Text.stripStart? "http:".toList iri.text.toList with
  | some rest => ["https:" ++ String.ofList rest]
  | none => []

theorem mem_securedText :
    x ∈ securedText a ↔ ∃ rest, a.text = "http:" ++ rest ∧ x = "https:" ++ rest := by
  have htext : ∀ rest : String, Text.stripStart? "http:".toList a.text.toList = some rest.toList ↔
      a.text = "http:" ++ rest := by
    intro rest
    rw [Text.stripStart?_eq_some_iff, ← String.toList_append, String.toList_inj]
  rw [securedText]
  split
  · next rest hrest =>
      rw [← String.toList_ofList (l := rest), htext] at hrest
      rw [List.mem_singleton]
      constructor
      · rintro rfl
        exact ⟨_, hrest, rfl⟩
      · rintro ⟨rest', hrest', rfl⟩
        rw [(String.append_right_inj "http:").1 (hrest.symm.trans hrest')]
  · next hnone =>
      refine iff_of_false List.not_mem_nil ?_
      rintro ⟨rest, hrest, _⟩
      exact absurd (hnone.symm.trans ((htext rest).2 hrest)) (by simp)

theorem mem_spellings : x ∈ r.spellings v ↔ x = (r.graph.value v).iri.text ∨
    x ∈ securedText (r.graph.value v).iri ∨ x = r.nameOf (r.graph.value v).iri := by
  have heq : r.spellings v = sortedSet ((r.graph.value v).iri.text ::
    securedText (r.graph.value v).iri ++ [r.nameOf (r.graph.value v).iri]) := rfl
  rw [heq, mem_sortedSet, List.mem_append, List.mem_cons, List.mem_singleton, or_assoc]

theorem mem_spellings_iff_spells :
    x ∈ r.spellings v ↔ Spells r.context (r.graph.value v).iri x := by
  rw [mem_spellings, mem_securedText]
  rfl

/-- What is listed of the values of a class is what they are spelt as. -/
theorem exists_literal_iff : (∃ m ∈ r.enumMembers c, x ∈ m.literals) ↔
    ∃ v ∈ r.graph.valuesOf c, x ∈ r.spellings v := by
  simp only [enumMembers, mem_sortWith, List.mem_map, exists_exists_and_eq_and]
  rfl

end Resolver

/-! ## Values -/

namespace Portrays

variable (hp : Portrays edition ss g)

include hp

/-- The values of a class, by IRI, are all different. -/
theorem nodup_valuesOf (c : ClassId) : ((g.valuesOf c).map fun v => (g.value v).iri).Nodup := by
  have hlt : ∀ v ∈ g.valuesOf c, v < g.values.length :=
    fun v hv => (hp.inRange.membership (c, v) (Link.mem_targets.1 hv)).2
  exact (g.membership.nodup_targets c).map_on fun v hv w hw =>
    Graph.eq_of_value_iri_eq hp.nodup_valueIris (hlt v hv) (hlt w hw)

/-- The values of a class are the subjects that are declared to be so. -/
theorem exists_value_iff (hc : c ∈ g.ids) {P : Iri → Prop} :
    (∃ v ∈ g.valuesOf c, P (g.value v).iri) ↔ ∃ a, IsValueOf ss a (g.iri c) ∧ P a := by
  constructor
  · rintro ⟨v, hv, hP⟩
    have hlt := (hp.inRange.membership (c, v) (Link.mem_targets.1 hv)).2
    exact ⟨_, (hp.member c hc v hlt).1 hv, hP⟩
  · rintro ⟨a, ha, hP⟩
    obtain ⟨v, hlt, rfl⟩ := Graph.mem_valueIris.1 ((hp.mem_valueIris a).2 ⟨_, ha⟩)
    exact ⟨v, (hp.member c hc v hlt).2 ha, hP⟩

/-- The union of the builtin classes has no enumeration values. -/
theorem valuesOf_of_union (hc : c ∈ g.ids) (hkind : g.kind c = .dataTypeUnion) :
    g.valuesOf c = [] := by
  rw [hp.kind c hc] at hkind
  -- a subject that is declared to be a `DataType` is a class, and no value
  have hmeta : (g.iri c).isMetaType = true := by
    rw [eq_of_kind_declaredEntry hkind]
    cases edition <;> decide +kernel
  refine List.eq_nil_iff_forall_not_mem.2 fun v hv => ?_
  have hrange := (hp.inRange.membership _ (Link.mem_targets.1 hv)).2
  have hnot := ((hp.member c hc v hrange).1 hv).2
  rw [hmeta] at hnot
  exact absurd hnot (by simp)

theorem nodup_iris_enumMembers (context : Context) (includeDeprecated : Bool) (c : ClassId) :
    (((Resolver.ofGraph g context includeDeprecated).enumMembers c).map EnumMember.iri).Nodup := by
  rw [Resolver.enumMembers, ((sortWith_perm _ _).map EnumMember.iri).nodup_iff, List.map_map]
  exact hp.nodup_valuesOf c

theorem mem_iris_enumMembers (context : Context) (includeDeprecated : Bool) (hc : c ∈ g.ids)
    (a : Iri) :
    a ∈ ((Resolver.ofGraph g context includeDeprecated).enumMembers c).map EnumMember.iri ↔
      IsValueOf ss a (g.iri c) := by
  have hvalue := hp.exists_value_iff hc (P := (· = a))
  rw [exists_eq_right] at hvalue
  rw [← hvalue]
  simp only [Resolver.enumMembers, List.mem_map, mem_sortWith, exists_exists_and_eq_and]
  rfl

/-- The values of a class are spelt as the subjects that are declared to be so. -/
theorem exists_spelling_iff (hc : c ∈ g.ids) :
    (∃ v ∈ g.valuesOf c, x ∈ (Resolver.ofGraph g context includeDeprecated).spellings v) ↔
      ∃ a, IsValueOf ss a (g.iri c) ∧ Spells context a x := by
  simp only [Resolver.mem_spellings_iff_spells]
  exact hp.exists_value_iff hc (P := fun a => Spells context a x)

end Portrays

end Ontotype

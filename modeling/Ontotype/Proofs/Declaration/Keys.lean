import Ontotype.Proofs.Assembly.Transcript
import Ontotype.Proofs.Declaration.Alike
import Ontotype.Proofs.Declaration.Heritage

set_option autoImplicit false

/-! # The keys of a base

The members of a base are the properties of its class, each once, and a member has as its key the
name that the context gives to its property. Short names forget where a name comes from: `http:` and
`https:` terms share them, and so do percent-encoded spellings. Shared names are looked for among
declarations and not among members, so the keys of a base are distinct exactly if the names of its
properties are (`nodup_keys_iff`), and where they are not, nothing reports it
(`keys_namesakeStatements`). -/

namespace Ontotype

open Vocabulary

variable {edition : Edition} {ss : List Statement} {g : Graph} {context : Context}
  {includeDeprecated : Bool} {o : Options} {r : Compiled} {a : Iri} {c : ClassId} {p : PropertyId}

/-- The statements give the class `c` the property `a`, which is not left out as superseded. -/
def HasMember (includeDeprecated : Bool) (ss : List Statement) (c a : Iri) : Prop :=
  Says ss a .type rdfProperty ∧ Says ss a .domainIncludes c ∧
    (includeDeprecated = true ∨ ∀ s ∈ ss, s.subject = a → s.kind ≠ .supersededBy)

/-! ## The members of a class -/

namespace Resolver

theorem mem_members_iff {r : Resolver} {m : Member} : m ∈ r.members c ↔
    ∃ b ∈ r.graph.bindingsOf c, r.visibleProperty b.property = true ∧ r.member b = m := by
  rw [members, mem_sortWith, List.mem_map]
  simp only [List.mem_filter, and_assoc]

end Resolver

namespace Portrays

theorem isDeprecated_property_iff (hp : Portrays edition ss g) (hlt : p < g.properties.length) :
    (g.property p).isDeprecated = true ↔
      ∃ s ∈ ss, s.subject = (g.property p).iri ∧ s.kind = .supersededBy := by
  rw [PropertyEntry.isDeprecated, hp.property_successors p hlt, successorTerms_eq, supersedingTerms]
  simp [List.filter_eq_nil_iff]

theorem visibleProperty_iff (hp : Portrays edition ss g) (hlt : p < g.properties.length) :
    (Resolver.ofGraph g context includeDeprecated).visibleProperty p = true ↔
      includeDeprecated = true ∨
        ∀ s ∈ ss, s.subject = (g.property p).iri → s.kind ≠ .supersededBy := by
  have hdeprecated := hp.isDeprecated_property_iff hlt
  rw [Resolver.visibleProperty, Bool.or_eq_true, Bool.not_eq_true', ← Bool.not_eq_true]
  refine or_congr_right ((not_congr hdeprecated).trans ?_)
  simp only [not_exists, not_and]

/-- The key of a member is the name of its property. -/
theorem key_of_mem_members (hp : Portrays edition ss g) {m : Member}
    (hm : m ∈ (Resolver.ofGraph g context includeDeprecated).members c) :
    m.key = context.scopedName m.iri := by
  obtain ⟨b, hb, _, rfl⟩ := Resolver.mem_members_iff.1 hm
  exact congrArg context.scopedName (hp.key b (List.mem_of_mem_filter hb))

/-- No property is listed twice. -/
theorem nodup_iris_members (hp : Portrays edition ss g) (context : Context)
    (includeDeprecated : Bool) (c : ClassId) :
    (((Resolver.ofGraph g context includeDeprecated).members c).map Member.iri).Nodup := by
  have hperm := (sortWith_perm (compareLex (compareOn Member.key) (compareOn fun m => m.iri.text))
    (((g.bindingsOf c).filter fun b => (Resolver.ofGraph g context
      includeDeprecated).visibleProperty b.property).map
        (Resolver.ofGraph g context includeDeprecated).member)).map Member.iri
  rw [Resolver.members]
  refine hperm.nodup_iff.2 ?_
  rw [List.map_map]
  exact (hp.nodup_bound c).sublist (List.filter_sublist.map _)

/-- The properties that are listed are those that the statements give to the class. -/
theorem mem_iris_members (hp : Portrays edition ss g) (context : Context)
    (includeDeprecated : Bool) (hc : c ∈ g.ids) (a : Iri) :
    a ∈ ((Resolver.ofGraph g context includeDeprecated).members c).map Member.iri ↔
      HasMember includeDeprecated ss (g.iri c) a := by
  rw [List.mem_map]
  constructor
  · rintro ⟨m, hm, rfl⟩
    obtain ⟨b, hb, hvisible, rfl⟩ := Resolver.mem_members_iff.1 hm
    obtain ⟨hb, howner⟩ := List.mem_filter.1 hb
    have hlt := (hp.inRange.binding b hb).2
    refine ⟨?_, ?_, (hp.visibleProperty_iff hlt).1 hvisible⟩
    · exact (hp.mem_propertyIris _).1 (Graph.mem_propertyIris.2 ⟨_, hlt, rfl⟩)
    · exact (hp.bound c hc _ hlt).1 ⟨b, hb, of_decide_eq_true howner, rfl⟩
  · rintro ⟨hproperty, hdomain, hvisible⟩
    obtain ⟨p, hlt, rfl⟩ := Graph.mem_propertyIris.1 ((hp.mem_propertyIris a).2 hproperty)
    obtain ⟨b, hb, howner, rfl⟩ := (hp.bound c hc p hlt).2 hdomain
    refine ⟨_, Resolver.mem_members_iff.2 ⟨b, ?_, ?_, rfl⟩, rfl⟩
    · exact List.mem_filter.2 ⟨hb, decide_eq_true howner⟩
    · exact (hp.visibleProperty_iff hlt).2 hvisible

end Portrays

/-! ## Distinct keys -/

/-- **The keys of a base are distinct if and only if the names of its properties are.** A base lists
    each of the properties that the statements give to its class, once, under the name that the
    context gives to it. -/
theorem nodup_keys_iff (h : compile o ss = .ok r) {D : Declaration} (hD : D ∈ r.declarations)
    {b : Base} (hb : D.base = some b) :
    (b.members.map Member.iri).Nodup ∧
      (∀ a, a ∈ b.members.map Member.iri ↔ HasMember o.includeDeprecated ss D.iri a) ∧
      (∀ m ∈ b.members, m.key = o.context.scopedName m.iri) ∧
      ((b.members.map Member.key).Nodup ↔ ∀ a a', HasMember o.includeDeprecated ss D.iri a →
        HasMember o.includeDeprecated ss D.iri a' →
          o.context.scopedName a = o.context.scopedName a' → a = a') := by
  have hp := portrays_of_compile h
  rw [(compiled_of_compile h).2.1, mem_declarationsOf] at hD
  obtain ⟨c, hc, _, rfl⟩ := hD
  have hmembers := (Resolver.base_spec (Resolver.base_of_declaration hb)).2.2
  have hnodup := hp.nodup_iris_members o.context o.includeDeprecated c
  have hiris := hp.mem_iris_members o.context o.includeDeprecated hc
  have hkeys : ∀ m ∈ b.members, m.key = o.context.scopedName m.iri := by
    intro m hm
    rw [hmembers] at hm
    exact hp.key_of_mem_members hm
  rw [← hmembers] at hnodup hiris
  refine ⟨hnodup, hiris, hkeys, ?_⟩
  have hmap : b.members.map Member.key = (b.members.map Member.iri).map o.context.scopedName := by
    rw [List.map_map]
    exact List.map_congr_left hkeys
  rw [hmap, List.nodup_map_iff_inj_on hnodup]
  simp only [hiris]
  exact ⟨fun h a a' ha ha' => h a ha a' ha', fun h a ha a' ha' => h a a' ha ha'⟩

/-- An ontology in which a `Book` has a `name` of each edition, and a `Person` has one of them and
    another property. -/
def namesakeStatements : List Statement :=
  let term := Edition.https.term
  [{ subject := term "Book", predicate := rdfType, object := .entity rdfsClass },
   { subject := term "Person", predicate := rdfType, object := .entity rdfsClass },
   { subject := Edition.http.term "name", predicate := rdfType, object := .entity rdfProperty },
   { subject := Edition.http.term "name", predicate := term "domainIncludes",
     object := .entity (term "Book") },
   { subject := term "name", predicate := rdfType, object := .entity rdfProperty },
   { subject := term "name", predicate := term "domainIncludes", object := .entity (term "Book") },
   { subject := term "name", predicate := term "domainIncludes",
     object := .entity (term "Person") },
   { subject := term "knows", predicate := rdfType, object := .entity rdfProperty },
   { subject := term "knows", predicate := term "domainIncludes",
     object := .entity (term "Person") }]

/-- The keys that declarations give to members, base by base. -/
def keysOf (ds : List Declaration) : List (List String) :=
  ds.filterMap fun D => D.base.map fun b => b.members.map Member.key

theorem mem_keysOf {ds : List Declaration} {keys : List String} : keys ∈ keysOf ds ↔
    ∃ D ∈ ds, ∃ b, D.base = some b ∧ b.members.map Member.key = keys := by
  simp [keysOf, Option.map_eq_some_iff]

theorem compile_namesakeStatements :
    ∃ r, compile {} namesakeStatements = .ok r ∧ r.findings = [] ∧
      keysOf r.declarations = [["name", "name"], ["knows", "name"]] := by
  have hall : (compile {} namesakeStatements).map (fun r => (r.findings, keysOf r.declarations)) =
      .ok ([], [["name", "name"], ["knows", "name"]]) := by decide +kernel
  obtain ⟨r, hr, hparts⟩ := exists_of_map_eq_ok hall
  exact ⟨r, hr, Prod.mk.inj hparts⟩

theorem nodup_keys_namesakeStatements :
    ∃ r, compile {} namesakeStatements = .ok r ∧ ∃ D ∈ r.declarations, ∃ b, D.base = some b ∧
      b.members.map Member.key = ["knows", "name"] ∧
      ∀ a a', HasMember false namesakeStatements D.iri a →
        HasMember false namesakeStatements D.iri a' →
          Context.standard.scopedName a = Context.standard.scopedName a' → a = a' := by
  obtain ⟨r, hr, _, hkeys⟩ := compile_namesakeStatements
  obtain ⟨D, hD, b, hb, hperson⟩ := mem_keysOf.1 (show ["knows", "name"] ∈ keysOf r.declarations
    by simp [hkeys])
  refine ⟨r, hr, D, hD, b, hb, hperson, (nodup_keys_iff hr hD hb).2.2.2.1 ?_⟩
  rw [hperson]
  decide

/-- Two members may have one key, and nothing reports it. -/
theorem keys_namesakeStatements :
    ∃ r, compile {} namesakeStatements = .ok r ∧ (∀ f ∈ r.findings, f.kind ≠ .nameCollision) ∧
      ∃ D ∈ r.declarations, ∃ b, D.base = some b ∧ b.members.map Member.key = ["name", "name"] ∧
        ¬ (b.members.map Member.key).Nodup := by
  obtain ⟨r, hr, hfindings, hkeys⟩ := compile_namesakeStatements
  obtain ⟨D, hD, b, hb, hbook⟩ := mem_keysOf.1 (show ["name", "name"] ∈ keysOf r.declarations
    by simp [hkeys])
  exact ⟨r, hr, by simp [hfindings], D, hD, b, hb, hbook, by simp [hbook]⟩

end Ontotype

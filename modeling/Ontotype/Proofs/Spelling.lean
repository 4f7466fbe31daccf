import Ontotype.Proofs.Assembly.Findings
import Ontotype.Proofs.Declaration.Respelling
import Ontotype.Proofs.Rdf.Spelling

set_option autoImplicit false

/-! # The spelling of references does not matter

A reference may be spelt as a compact reference or in full. Whatever reads an object asks for the
IRI that it names, and an object is kept as it is spelt in two places only: among the successors of
a property, which are shown by their names, and in findings and errors, which show the statement.
So every step of a compilation commutes with spelling all objects in full, which is to respell them
without renaming an IRI, and two lists of statements that differ in spelling only are compiled alike
(`compile_expands`). -/

namespace Ontotype

open Vocabulary

/-! ## Results that agree -/

/-- Both results are values that are alike, or both are errors that are alike. -/
inductive Agree {ε α β : Type} (E : ε → ε → Prop) (R : α → β → Prop) :
    Except ε α → Except ε β → Prop
  | ok {a : α} {b : β} (h : R a b) : Agree E R (.ok a) (.ok b)
  | error {e e' : ε} (h : E e e') : Agree E R (.error e) (.error e')

namespace Agree

variable {ε α β γ δ : Type} {E : ε → ε → Prop} {R : α → β → Prop}

theorem bind {S : γ → δ → Prop} {f : α → Except ε γ} {f' : β → Except ε δ} {x : Except ε α}
    {y : Except ε β} (h : Agree E R x y)
    (hf : ∀ a b, x = .ok a → y = .ok b → R a b → Agree E S (f a) (f' b)) :
    Agree E S (x >>= f) (y >>= f') := by
  cases h with
  | ok h => exact hf _ _ rfl rfl h
  | error h => exact .error h

/-- Results that become equal when their errors are changed agree up to that change. -/
theorem of_mapError {f : ε → ε} {x y : Except ε α} (h : x.mapError f = y.mapError f) :
    Agree (fun e e' => f e = f e') Eq x y := by
  cases x with
  | ok a =>
      rw [mapError_eq_ok_iff.1 h.symm]
      exact .ok rfl
  | error e =>
      cases y with
      | ok b => exact absurd h (by simp [Except.mapError])
      | error e' => exact .error (Except.error.inj h)

theorem isOk_eq {x : Except ε α} {y : Except ε β} (h : Agree E R x y) : x.isOk = y.isOk := by
  cases h <;> rfl

theorem exists_right {x : Except ε α} {y : Except ε β} {a : α} (h : Agree E R x y)
    (hx : x = .ok a) : ∃ b, y = .ok b ∧ R a b := by
  cases h with
  | ok h =>
      cases hx
      exact ⟨_, rfl, h⟩
  | error h => cases hx

end Agree

/-! ## Assembly -/

/-- The same error, but for how it spells an object: with all objects in full, the two are one. -/
def CompileError.Respelt (e e' : CompileError) : Prop := e.respell id = e'.respell id

/-- The same finding, but for how it spells an object. -/
structure Diagnostic.Respelt (d d' : Diagnostic) : Prop where
  kind : d.kind = d'.kind
  subject : d.subject = d'.subject
  message : d.message = d'.message ∨
    ∃ s s' : Statement, s.full = s'.full ∧ d = .unrecognized s ∧ d' = .unrecognized s'

/-- The same assembly, but for how it spells objects. -/
structure Build.Respelt (b b' : Build) : Prop where
  graph : b.graph.respell id = b'.graph.respell id
  findings : List.Forall₂ Diagnostic.Respelt b.findings b'.findings

namespace Diagnostic

theorem Respelt.refl (d : Diagnostic) : d.Respelt d := ⟨rfl, rfl, Or.inl rfl⟩

theorem respelt_unrecognized {s s' : Statement} (h : s.full = s'.full) :
    (unrecognized s).Respelt (unrecognized s') where
  kind := rfl
  subject := show s.full.subject = s'.full.subject by rw [h]
  message := Or.inr ⟨s, s', h, rfl, rfl⟩

theorem forall₂_respelt_refl (ds : List Diagnostic) : List.Forall₂ Respelt ds ds :=
  List.forall₂_same.2 fun d _ => .refl d

end Diagnostic

section

variable {ρ : Iri → Iri} (g : Graph)

theorem editsOf_respell (rs : List Reading) : editsOf (rs.map (Reading.respell ρ)) =
    ((editsOf rs).1.map (Edit.respell ρ), (editsOf rs).2.map (CompileError.respell ρ)) := by
  induction rs with
  | nil => rfl
  | cons r rs ih =>
      cases r with
      | error e => rfl
      | ok es =>
          rw [List.map_cons, Reading.respell, editsOf_cons_ok, editsOf_cons_ok, ih, List.map_append]

theorem Edit.reported?_respell (e : Edit) :
    (e.respell ρ).reported? = e.reported?.map (Statement.respell ρ) := by
  cases e <;> rfl

theorem Edit.commented?_respell (e : Edit) : (e.respell ρ).commented? = e.commented? := by
  cases e <;> rfl

theorem Graph.commentOf_respell (h : ρ default = default) (x : Part × Nat) :
    (g.respell ρ).commentOf x = g.commentOf x := by
  obtain ⟨part, n⟩ := x
  cases part with
  | classes =>
      rw [commentOf, g.entry_respell ρ h]
      rfl
  | properties =>
      rw [commentOf, g.property_respell ρ h]
      rfl
  | values =>
      rw [commentOf, g.value_respell ρ h]
      rfl

theorem Graph.iriOf_respell (h : ρ default = default) (x : Part × Nat) :
    (g.respell ρ).iriOf x = ρ (g.iriOf x) := by
  obtain ⟨part, n⟩ := x
  cases part with
  | classes => exact congrArg ClassEntry.iri (g.entry_respell ρ h n)
  | properties => exact congrArg PropertyEntry.iri (g.property_respell ρ h n)
  | values => exact congrArg ValueEntry.iri (g.value_respell ρ h n)

end

/-- What is found when an edit is applied is the same in both spellings. -/
theorem Edit.findings_respelt {g g' : Graph} {e e' : Edit} (hg : g.respell id = g'.respell id)
    (he : e.respell id = e'.respell id) :
    List.Forall₂ Diagnostic.Respelt (e.findings g) (e'.findings g') := by
  have hreported : e.reported?.map (Statement.respell id) =
      e'.reported?.map (Statement.respell id) := by
    rw [← reported?_respell, he, reported?_respell]
  have hcommented : e.commented? = e'.commented? := by
    rw [← commented?_respell, he, commented?_respell]
  have hcomment : ∀ x, g.commentOf x = g'.commentOf x := by
    intro x
    rw [← g.commentOf_respell (ρ := id) rfl, hg, g'.commentOf_respell rfl]
  have hiri : ∀ x, g.iriOf x = g'.iriOf x := fun x =>
    (g.iriOf_respell rfl x).symm.trans ((congrArg (·.iriOf x) hg).trans (g'.iriOf_respell rfl x))
  rw [findings, findings, hcommented]
  simp only [hcomment, hiri]
  refine List.rel_append ?_ (Diagnostic.forall₂_respelt_refl _)
  cases h : e.reported? with
  | none =>
      rw [h] at hreported
      rw [Option.map_eq_none_iff.1 hreported.symm]
      exact .nil
  | some s =>
      rw [h] at hreported
      obtain ⟨s', hs', hs⟩ := Option.map_eq_some_iff.1 hreported.symm
      rw [hs']
      exact .cons (Diagnostic.respelt_unrecognized hs.symm) .nil

namespace Build.Respelt

variable {b b' : Build}

theorem apply (h : b.Respelt b') {e e' : Edit} (he : e.respell id = e'.respell id) :
    (b.apply e).Respelt (b'.apply e') where
  graph := by
      rw [graph_apply, ← Graph.edit_respell, h.graph, he, Graph.edit_respell, graph_apply]
  findings := by
      rw [findings_apply, findings_apply]
      exact List.rel_append h.findings (Edit.findings_respelt h.graph he)

theorem foldl (h : b.Respelt b') {es es' : List Edit}
    (hes : es.map (Edit.respell id) = es'.map (Edit.respell id)) :
    (es.foldl Build.apply b).Respelt (es'.foldl Build.apply b') := by
  induction es generalizing es' b b' with
  | nil =>
      rw [List.map_eq_nil_iff.1 hes.symm]
      exact h
  | cons e es ih =>
      obtain ⟨e', rest, rfl, he, hrest⟩ := List.map_eq_cons_iff.1 hes.symm
      rw [List.foldl_cons, List.foldl_cons]
      exact ih (h.apply he.symm) hrest.symm

theorem run (h : b.Respelt b') {rs rs' : List Reading}
    (hrs : rs.map (Reading.respell id) = rs'.map (Reading.respell id)) :
    Agree CompileError.Respelt Build.Respelt (b.run rs).toExcept (b'.run rs').toExcept := by
  have hedits := congrArg editsOf hrs
  rw [editsOf_respell, editsOf_respell, Prod.mk.injEq] at hedits
  obtain ⟨hes, hfailure⟩ := hedits
  rw [Build.run, Build.run, Outcome.toExcept, Outcome.toExcept]
  cases h₁ : (editsOf rs).2 with
  | none =>
      rw [h₁] at hfailure
      rw [Option.map_eq_none_iff.1 hfailure.symm]
      exact .ok (h.foldl hes)
  | some e =>
      rw [h₁] at hfailure
      obtain ⟨e', he', he⟩ := Option.map_eq_some_iff.1 hfailure.symm
      rw [he']
      exact .error he.symm

/-- What is read from topics that are spelt alike in full is spelt alike in full. -/
theorem readings (h : b.Respelt b') {topics topics' : List Topic}
    (ht : topics.map (Topic.respell id) = topics'.map (Topic.respell id)) (part : Part) :
    (part.readings b.graph topics).map (Reading.respell id) =
      (part.readings b'.graph topics').map (Reading.respell id) := by
  rw [← renaming_id.readings_respell, h.graph, ht, renaming_id.readings_respell]

theorem validate (h : b.Respelt b') :
    Agree CompileError.Respelt Eq b.graph.validate b'.graph.validate := by
  refine .of_mapError ?_
  rw [← Graph.validate_respell id _ rfl, h.graph, Graph.validate_respell id _ rfl]

end Build.Respelt

/-- Statements that differ in spelling only are assembled alike, or refused alike by the same
    stage. -/
theorem assemble_respelt {ss ss' : List Statement}
    (h : ss.map (Statement.respell id) = ss'.map (Statement.respell id)) :
    Agree CompileError.Respelt Build.Respelt (assemble (topicsOf ss))
      (assemble (topicsOf ss')) := by
  have ht : (topicsOf ss).map (Topic.respell id) = (topicsOf ss').map (Topic.respell id) := by
    rw [← renaming_id.topicsOf_respell, h, renaming_id.topicsOf_respell]
  have hdeclared : ∀ ss, declaredGraph (topicsOf (ss.map (Statement.respell id))) =
      (declaredGraph (topicsOf ss)).respell id := fun ss =>
    renaming_id.declaredGraph_respell fun name => by rw [editionOf_respell_id]; rfl
  have hstart : (Build.start (topicsOf ss)).Respelt (Build.start (topicsOf ss')) := by
    refine ⟨?_, .nil⟩
    show (declaredGraph (topicsOf ss)).respell id = (declaredGraph (topicsOf ss')).respell id
    rw [← hdeclared, h, hdeclared]
  exact (hstart.run (hstart.readings ht .classes)).bind fun _ _ _ _ h₁ =>
    h₁.validate.bind fun _ _ _ _ _ =>
      (h₁.run (h₁.readings ht .properties)).bind fun _ _ _ _ h₂ => h₂.run (h₂.readings ht .values)

/-! ## Declarations -/

theorem Base.rename_id (b : Base) : b.rename id = b :=
  congrArg (fun members => { b with members }) (List.map_id b.members)

theorem Resolver.declaration_respell_id (r : Resolver) (c : ClassId) :
    (r.respell id).declaration c = r.declaration c := by
  have h := r.graph.keepsNames_id r.context
  have ho := r.graph.keepsOrder_id r.context
  have hspellings : (r.respell id).spellings = r.spellings := by
    funext v
    rw [spellings, value_respell h, spellings]
    rfl
  have hmember : (r.respell id).enumMember = r.enumMember := by
    funext v
    rw [enumMember, value_respell h, hspellings]
    rfl
  have htotal : (r.respell id).totalOfClass c = r.totalOfClass c := by
    rw [totalOfClass_eq, nonTexts_respell h ho, hspellings, totalOfClass_eq]
    rfl
  rw [declaration_respell h ho]
  refine (Declaration.mk.injEq ..).mpr ⟨rfl, rfl, rfl, rfl, rfl, rfl, rfl, ?_, rfl, ?_, ?_⟩
  · rw [funext (f := Base.rename id) (g := id) Base.rename_id]
    exact congrFun Option.map_id _
  · show (if (r.respell id).graph.kind c = _ then _ else _) = if r.graph.kind c = _ then _ else _
    rw [htotal, totalOfUnion_respell h, show (r.respell id).graph.kind c = r.graph.kind c from
      r.graph.kind_respell id c]
  · show (r.respell id).enumMembers c = r.enumMembers c
    rw [enumMembers_eq_map, enumMembers_eq_map, sortedValues_respell h ho, hmember]

theorem declarationsOf_respell_id {g : Graph} (hg : g.InRange) (o : Options) :
    declarationsOf (g.respell id) o = declarationsOf g o := by
  rw [(g.keepsNames_id o.context).declarationsOf_respell (g.keepsOrder_id o.context) hg,
    funext (Resolver.declaration_respell_id _)]
  rfl

/-! ## Compiling -/

/-- The same is declared, with the same helpers, and the same is found, but for how findings spell
    an object. -/
structure Compiled.Respelt (r r' : Compiled) : Prop where
  declarations : r.declarations = r'.declarations
  preamble : r.preamble = r'.preamble
  findings : List.Forall₂ Diagnostic.Respelt r.findings r'.findings

theorem Build.Respelt.compiled {b b' : Build} (h : b.Respelt b') (hb : b.graph.InRange)
    (hb' : b'.graph.InRange) (o : Options) : (b.compiled o).Respelt (b'.compiled o) := by
  have hdeclarations : declarationsOf b.graph o = declarationsOf b'.graph o := by
    rw [← declarationsOf_respell_id hb, h.graph, declarationsOf_respell_id hb']
  have hpreamble : ∀ g : Graph, Preamble.ofGraph (g.respell id) o.context =
      Preamble.ofGraph g o.context := fun g =>
    (g.keepsNames_id o.context).preamble_respell fun _ => rfl
  refine ⟨hdeclarations, ?_, ?_⟩
  · show Preamble.ofGraph b.graph o.context = Preamble.ofGraph b'.graph o.context
    rw [← hpreamble, h.graph, hpreamble]
  · show List.Forall₂ _ (b.findings ++ collisions [] (declarationsOf b.graph o))
      (b'.findings ++ collisions [] (declarationsOf b'.graph o))
    rw [hdeclarations]
    exact List.rel_append h.findings (Diagnostic.forall₂_respelt_refl _)

theorem inRange_of_assemble {ss : List Statement} {b : Build}
    (h : assemble (topicsOf ss) = .ok b) : b.graph.InRange :=
  graph_of_assemble h ▸ (portrays_assembledGraph ss).inRange

/-- Statements that differ in spelling only are compiled alike. -/
theorem compile_respelt (o : Options) {ss ss' : List Statement}
    (h : ss.map Statement.full = ss'.map Statement.full) :
    Agree CompileError.Respelt Compiled.Respelt (compile o ss) (compile o ss') := by
  have hcontext : Agree CompileError.Respelt Eq (o.context.validate.mapError .invalidContext)
      (o.context.validate.mapError .invalidContext) := .of_mapError rfl
  exact hcontext.bind fun _ _ _ _ _ => (assemble_respelt h).bind fun _ _ hb hb' hrespelt =>
    .ok (hrespelt.compiled (inRange_of_assemble hb) (inRange_of_assemble hb') o)

/-- **Compact references and the IRIs that they stand for are interchangeable.** If compact
    references with known labels are replaced by the IRIs that they stand for, then either both
    lists of statements are refused for the same reason, or both compile, to the same declarations
    and helpers, and with the same findings, of which some may spell an object in another way. And
    what is read as an object names the IRI that it names as a subject, and is a compact reference
    only if its label is known. -/
theorem compile_expands :
    (∀ (o : Options) (ss ss' : List Statement), List.Forall₂ Statement.Expands ss ss' →
      Agree CompileError.Respelt Compiled.Respelt (compile o ss) (compile o ss')) ∧
    ∀ iri : List Char, (NTriples.objectOf iri).iri? = some (NTriples.nameOf iri) ∧
      ∀ label name, NTriples.objectOf iri = .compact label name → (namespace? label).isSome := by
  refine ⟨fun o ss ss' h => compile_respelt o (map_full_of_expands h), fun iri => ?_⟩
  refine ⟨NTriples.iri?_objectOf iri, fun label name h => ?_⟩
  obtain ⟨base, hbase⟩ := NTriples.namespace?_of_objectOf h
  rw [hbase]
  rfl

/-- An ontology with a property that another one replaces, and with a statement of no use. The
    references to its own terms are spelt as `own` says. -/
def creditStatements (own : String → Term) : List Statement :=
  let term := Edition.https.term
  [{ subject := term "Thing", predicate := rdfType, object := .compact "rdfs" "Class" },
   { subject := term "Person", predicate := rdfsSubClassOf, object := own "Thing" },
   { subject := term "author", predicate := rdfType, object := .compact "rdf" "Property" },
   { subject := term "author", predicate := term "domainIncludes", object := own "Thing" },
   { subject := term "author", predicate := term "rangeIncludes", object := own "Person" },
   { subject := term "author", predicate := term "supersededBy", object := own "creator" },
   { subject := term "author", predicate := term "inverseOf", object := own "works" }]

theorem compile_expands_creditStatements :
    (∃ r r', compile {} (creditStatements (.compact "schema")) = .ok r ∧
      compile {} (creditStatements fun name => .entity (Edition.https.term name)) = .ok r' ∧
        r.Respelt r') ∧
    (NTriples.objectOf "schema:Thing".toList).iri? = some (Edition.https.term "Thing") := by
  have hschema : namespace? "schema" = some Edition.https.base := by decide +kernel
  have hkeep : ∀ s : Statement, s.Expands s := fun s => ⟨rfl, rfl, .keep s.object⟩
  have hexpands : List.Forall₂ Statement.Expands (creditStatements (.compact "schema"))
      (creditStatements fun name => .entity (Edition.https.term name)) :=
    .cons (hkeep _) <| .cons ⟨rfl, rfl, .expand hschema "Thing"⟩ <|
    .cons (hkeep _) <| .cons ⟨rfl, rfl, .expand hschema "Thing"⟩ <|
    .cons ⟨rfl, rfl, .expand hschema "Person"⟩ <| .cons ⟨rfl, rfl, .expand hschema "creator"⟩ <|
    .cons ⟨rfl, rfl, .expand hschema "works"⟩ .nil
  obtain ⟨hcompile, hread⟩ := compile_expands
  have hok : (compile {} (creditStatements (.compact "schema"))).isOk = true := by decide +kernel
  obtain ⟨r, hr⟩ := isOk_iff.1 hok
  obtain ⟨r', hr', hrespelt⟩ := (hcompile {} _ _ hexpands).exists_right hr
  refine ⟨⟨r, r', hr, hr', hrespelt⟩, (hread _).1.trans ?_⟩
  decide +kernel

end Ontotype

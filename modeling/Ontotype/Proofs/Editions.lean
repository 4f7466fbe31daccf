import Ontotype.Proofs.Declaration.Values
import Ontotype.Proofs.Rdf.Editions
import Ontotype.Proofs.Spelling

set_option autoImplicit false

/-! # Both editions of an ontology are compiled alike

An ontology that uses schema.org terms in the `http:` edition can be moved to the `https:` edition.
The edition of the builtin classes moves with it, and the standard context gives the terms of both
editions the same names. So what is declared is the same, but for the IRIs that declarations carry,
and for one text for each enumeration value, its own IRI in the `http:` edition
(`compile_secured`). -/

namespace Ontotype

open Vocabulary

variable {ss : List Statement} {g : Graph} {edition : Edition} {c : ClassId} {v : ValueId}
  {a : Iri} {x : String}

/-! ## Texts -/

/-- The texts of the terms of the `http:` edition. -/
def httpSpellings (iris : List Iri) : List String :=
  (iris.filter (·.edition? = some .http)).map Iri.text

theorem httpSpellings_http (name : String) :
    httpSpellings [Edition.http.term name] = [(Edition.http.term name).text] := by
  rw [httpSpellings, List.filter_cons_of_pos (by simp)]
  rfl

theorem httpSpellings_of_ne (h : a.edition? ≠ some .http) : httpSpellings [a] = [] := by
  rw [httpSpellings, List.filter_cons_of_neg (by simpa using h)]
  rfl

theorem mem_httpSpellings {iris : List Iri} :
    x ∈ httpSpellings iris ↔ ∃ a ∈ iris, x ∈ httpSpellings [a] := by
  simp [httpSpellings, List.mem_filter, and_assoc]

/-- The enumeration value `m'` is `m`, moved to the `https:` edition. -/
structure EnumMember.Secured (m m' : EnumMember) : Prop where
  fields : m' = { m with iri := m.iri.secured, literals := m'.literals }
  literals : m.literals = sortedSet (m'.literals ++ httpSpellings [m.iri])

/-- The declaration `D'` is `D`, moved to the `https:` edition. -/
structure Declaration.Secured (D D' : Declaration) : Prop where
  fields : D' =
    { D with
      iri := D.iri.secured
      base := D.base.map (Base.rename Iri.secured)
      total := D'.total
      enumMembers := D'.enumMembers }
  /-- The texts come first in the total type. -/
  total : ∃ texts rest,
    D'.total = texts.map .literal ++ rest ∧
      D.total = (sortedSet (texts ++ httpSpellings (D.enumMembers.map EnumMember.iri))).map .literal
        ++ rest ∧
      ∀ text, .literal text ∉ rest
  enumMembers : List.Forall₂ EnumMember.Secured D.enumMembers D'.enumMembers

namespace Resolver

variable {r : Resolver}

theorem securedText_http (name : String) :
    securedText (Edition.http.term name) = [(Edition.https.term name).text] := by
  have hrest : Text.stripStart? "http:".toList (Edition.http.term name).text.toList =
      some ("//schema.org/".toList ++ name.toList) :=
    Text.stripStart?_eq_some_iff.2 (String.toList_append ..)
  rw [securedText, hrest]
  refine congrArg (fun text => [text]) (String.toList_inj.1 ?_)
  simp only [Edition.term, String.toList_append, String.toList_ofList]
  rfl

theorem securedText_https (name : String) : securedText (Edition.https.term name) = [] := by
  rw [securedText, Edition.term, String.toList_append]
  rfl

section

variable (h : r.graph.KeepsNames Iri.secured r.context)

include h

/-- A value is spelt as before, and a term of the `http:` edition by its own IRI besides. -/
theorem mem_spellings_secured : x ∈ r.spellings v ↔
    x ∈ (r.respell Iri.secured).spellings v ∨ x ∈ httpSpellings [(r.graph.value v).iri] := by
  have hvalue : ((r.respell Iri.secured).graph.value v).iri = (r.graph.value v).iri.secured :=
    congrArg ValueEntry.iri (value_respell h v)
  have hname : (r.respell Iri.secured).nameOf ((r.respell Iri.secured).graph.value v).iri =
      r.nameOf (r.graph.value v).iri := h.scopedName_value v
  rw [mem_spellings, mem_spellings, hname, hvalue]
  rcases Iri.term_cases (r.graph.value v).iri with ⟨edition, name, hterm⟩ | hterm
  · rw [hterm, Iri.secured_term, securedText_https]
    cases edition with
    | http =>
        rw [securedText_http, httpSpellings_http, List.mem_singleton, List.mem_singleton]
        simp only [List.not_mem_nil, false_or]
        exact or_comm
    | https =>
        rw [securedText_https, httpSpellings_of_ne (by simp)]
        simp only [List.not_mem_nil, or_false]
  · rw [Iri.secured_of_no_term hterm, httpSpellings_of_ne (by simp [Iri.edition?_eq_none hterm])]
    simp only [List.not_mem_nil, or_false]

theorem spellings_secured (v : ValueId) : r.spellings v =
    sortedSet ((r.respell Iri.secured).spellings v ++ httpSpellings [(r.graph.value v).iri]) := by
  refine sortedSet_congr fun x => ?_
  refine (mem_sortedSet _ x).symm.trans ((mem_spellings_secured h).trans ?_)
  rw [List.mem_append]

/-- The texts of a class are those of its values, and the values that are moved are spelt by their
    own IRIs besides. -/
theorem texts_secured (c : ClassId) : sortedSet ((r.graph.valuesOf c).flatMap r.spellings) =
    sortedSet (sortedSet ((r.graph.valuesOf c).flatMap (r.respell Iri.secured).spellings) ++
      httpSpellings ((r.enumMembers c).map EnumMember.iri)) := by
  have hvalues : ∀ v, v ∈ r.sortedValues c ↔ v ∈ r.graph.valuesOf c := fun v => mem_sortWith ..
  have hiris : (r.enumMembers c).map EnumMember.iri =
      (r.sortedValues c).map fun v => (r.graph.value v).iri := by
    rw [enumMembers_eq_map, List.map_map]
    rfl
  refine sortedSet_congr fun x => ?_
  rw [List.mem_append, mem_sortedSet, hiris, mem_httpSpellings, List.mem_flatMap, List.mem_flatMap]
  simp only [List.mem_map, exists_exists_and_eq_and, hvalues, mem_spellings_secured h, and_or_left,
    exists_or]

variable (ho : r.graph.KeepsOrder Iri.secured r.context)

include ho

theorem enumMembers_secured (c : ClassId) : List.Forall₂ EnumMember.Secured (r.enumMembers c)
    ((r.respell Iri.secured).enumMembers c) := by
  rw [enumMembers_eq_map, enumMembers_eq_map, sortedValues_respell h ho,
    List.forall₂_map_left_iff, List.forall₂_map_right_iff]
  refine List.forall₂_same.2 fun v _ => ⟨?_, spellings_secured h v⟩
  have hvalue : (r.respell Iri.secured).graph.value v = (r.graph.value v).respell Iri.secured :=
    value_respell h v
  have hcomment := congrArg ValueEntry.comment hvalue
  exact (EnumMember.mk.injEq ..).mpr
    ⟨congrArg ValueEntry.iri hvalue, h.scopedName_value v, hcomment, rfl⟩

theorem declaration_secured (hp : Portrays edition ss r.graph) (hc : c ∈ r.graph.ids) :
    (r.declaration c).Secured ((r.respell Iri.secured).declaration c) where
  fields := declaration_respell h ho c
  total := by
      have hkind : (r.respell Iri.secured).graph.kind c = r.graph.kind c :=
        r.graph.kind_respell Iri.secured c
      by_cases hunion : r.graph.kind c = .dataTypeUnion
      · have hvalues : r.enumMembers c = [] := by
          rw [enumMembers, hp.valuesOf_of_union hc hunion]
          rfl
        refine ⟨[], r.totalOfUnion c, ?_, ?_, ?_⟩
        · rw [total_of_union (hkind.trans hunion), totalOfUnion_respell h]
          rfl
        · rw [total_of_union hunion, show (r.declaration c).enumMembers = [] from hvalues]
          rfl
        · simp [totalOfUnion]
      · refine ⟨sortedSet ((r.graph.valuesOf c).flatMap (r.respell Iri.secured).spellings),
          r.nonTexts c, ?_, ?_, literal_not_mem_nonTexts hp hc⟩
        · rw [total_of_class fun heq => hunion (hkind.symm.trans heq), totalOfClass_eq,
            nonTexts_respell h ho]
          rfl
        · rw [total_of_class hunion, totalOfClass_eq, texts_secured h c]
          rfl
  enumMembers := enumMembers_secured h ho c

end

end Resolver

/-! ## Compiling both editions -/

theorem editionOf_secured (ss : List Statement) :
    editionOf (topicsOf (ss.map (Statement.respell Iri.secured))) = .https := by
  refine editionOf_eq (fun s' hs' a ha e he => ?_) (.inl rfl)
  obtain ⟨s, hs, rfl⟩ := List.mem_map.1 hs'
  obtain ⟨b, _, rfl⟩ := Statement.mem_iris_respell.1 ha
  exact Iri.edition?_secured he

theorem exists_term_of_mem_seedIris (ha : a ∈ seedIris edition) :
    ∃ name, Iri.IsSegment name ∧ a = edition.term name := by
  have hbuiltins : ∀ b ∈ builtins, Iri.IsSegment b.1 := by decide +kernel
  rcases List.mem_append.1 ha with h | h
  · obtain ⟨b, hb, rfl⟩ := List.mem_map.1 h
    exact ⟨b.1, hbuiltins b hb, rfl⟩
  · exact ⟨"DataType", by decide +kernel, List.mem_singleton.1 h⟩

section

variable (hss : ∀ s ∈ ss, ∀ a ∈ s.iris, a.IsUnsecured)

include hss

/-- To move the terms of an ontology is to rename them, with the builtin classes: either no term
    occurs, and the builtin classes are in the `https:` edition already, or all of them are in the
    other edition. -/
theorem exists_renaming : ∃ ρ, Renaming ρ ∧ (∀ s ∈ ss, ∀ a ∈ s.iris, ρ a = a.secured) ∧
    ∀ name, ρ ((editionOf (topicsOf ss)).term name) = Edition.https.term name := by
  by_cases hsome : ∃ s ∈ ss, ∃ a ∈ s.iris, a.edition? ≠ none
  · have hedition : editionOf (topicsOf ss) = .http :=
      editionOf_eq (fun s hs a ha _ he => (hss s hs a ha).edition?_eq he) (.inr hsome)
    refine ⟨Iri.exchanged, Iri.renaming_exchanged,
      fun s hs a ha => (hss s hs a ha).exchanged_eq, ?_⟩
    rw [hedition]
    exact Iri.exchanged_http
  · have hnone : ∀ s ∈ ss, ∀ a ∈ s.iris, a.edition? = none := by simpa using hsome
    have hedition : editionOf (topicsOf ss) = .https :=
      editionOf_eq (fun s hs a ha e he => absurd (he.symm.trans (hnone s hs a ha)) (by simp))
        (.inl rfl)
    refine ⟨id, renaming_id, fun s hs a ha => ?_, fun name => by rw [hedition]; rfl⟩
    rcases Iri.term_cases a with ⟨edition, name, rfl⟩ | hterm
    · exact absurd (hnone s hs _ ha) (by simp)
    · exact (Iri.secured_of_no_term hterm).symm

/-- The terms that the graph names have names of a single segment. -/
theorem isSegment_of_mem_iris (ha : a ∈ (assembledGraph ss).iris) :
    ∀ name ∈ a.schemaName?, Iri.IsSegment name := by
  rcases (portrays_assembledGraph ss).iris ha with hseed | ⟨s, hs, ha⟩
  · obtain ⟨name, hname, rfl⟩ := exists_term_of_mem_seedIris hseed
    rw [Iri.schemaName?_term]
    rintro _ ⟨⟩
    exact hname
  · exact fun name hname => (hss s hs a ha name hname).2

theorem keepsNames_assembledGraph : (assembledGraph ss).KeepsNames Iri.secured .standard where
  fixed := by decide +kernel
  localName _ ha := Iri.localName_secured (isSegment_of_mem_iris hss ha)
  scopedName _ ha := Iri.scopedName_secured (isSegment_of_mem_iris hss ha)

/-- Nothing in the statements or in the graph tells that renaming from moving to the `https:`
    edition. -/
theorem exists_renaming_secured : ∃ ρ, Renaming ρ ∧
    ss.map (Statement.respell ρ) = ss.map (Statement.respell Iri.secured) ∧
    (assembledGraph ss).respell ρ = (assembledGraph ss).respell Iri.secured ∧
    ∀ name, ρ ((editionOf (topicsOf ss)).term name) =
      (editionOf (topicsOf (ss.map (Statement.respell ρ)))).term name := by
  obtain ⟨ρ, hρ, hsecured, hedition⟩ := exists_renaming hss
  have hmap : ss.map (Statement.respell ρ) = ss.map (Statement.respell Iri.secured) :=
    List.map_congr_left fun s hs => Statement.respell_congr (hsecured s hs)
  refine ⟨ρ, hρ, hmap, Graph.respell_congr fun a ha => ?_, fun name => ?_⟩
  · rcases (portrays_assembledGraph ss).iris ha with hseed | ⟨s, hs, ha⟩
    · obtain ⟨name, _, rfl⟩ := exists_term_of_mem_seedIris hseed
      rw [hedition, Iri.secured_term]
    · exact hsecured s hs a ha
  · rw [hmap, editionOf_secured, hedition]

theorem assembledGraph_secured :
    assembledGraph (ss.map (Statement.respell Iri.secured)) =
      (assembledGraph ss).respell Iri.secured := by
  obtain ⟨ρ, hρ, hmap, hgraph, hedition⟩ := exists_renaming_secured hss
  rw [← hmap, hρ.assembledGraph_respell hedition, hgraph]

theorem isOk_compile_secured (o : Options) :
    (compile o (ss.map (Statement.respell Iri.secured))).isOk = (compile o ss).isOk := by
  obtain ⟨ρ, hρ, hmap, _, hedition⟩ := exists_renaming_secured hss
  rw [← hmap, hρ.compile_isOk_respell o hedition]

/-- The moved statements, with all references in full, are compiled as the statements are. -/
theorem secured_of_compile {o : Options} (ho : o.context = .standard) {r r' : Compiled}
    (hr : compile o ss = .ok r) (hr' : compile o (ss.map (Statement.respell Iri.secured)) = .ok r')
    (hnames : r.graph.DistinctNames .standard) :
    r'.preamble = r.preamble ∧
      List.Forall₂ Declaration.Secured r.declarations r'.declarations := by
  obtain ⟨hgraph, hdeclarations, hpreamble⟩ := compiled_of_compile hr
  obtain ⟨hgraph', hdeclarations', hpreamble'⟩ := compiled_of_compile hr'
  have hp := portrays_of_compile hr
  have hkeeps : r.graph.KeepsNames Iri.secured o.context :=
    hgraph ▸ ho ▸ keepsNames_assembledGraph hss
  have horder : r.graph.KeepsOrder Iri.secured o.context :=
    Graph.DistinctNames.keepsOrder (ho ▸ hnames) hp
  rw [assembledGraph_secured hss, ← hgraph] at hgraph'
  rw [hpreamble', hdeclarations', hgraph', hpreamble, hdeclarations]
  refine ⟨hkeeps.preamble_respell Iri.schemaName?_secured, ?_⟩
  rw [hkeeps.declarationsOf_respell horder hp.inRange, declarationsOf,
    List.forall₂_map_left_iff, List.forall₂_map_right_iff]
  refine List.forall₂_same.2 fun c hc => ?_
  have hmem : c ∈ r.graph.ids :=
    (sortedIds_perm r.graph).mem_iff.1 (List.mem_of_mem_filter hc)
  exact Resolver.declaration_secured hkeeps horder hp hmem

/-- **The two editions of an ontology are compiled alike.** Move all schema.org terms of an ontology
    from the `http:` edition to the `https:` edition. In the standard context one of the two is
    accepted if and only if the other one is. If both are, and classes, properties and enumeration
    values are told apart by their names, then the helpers are the same, and the same is declared in
    the same order, but for the IRIs, and for the `http:` spelling of enumeration values, which only
    the `http:` edition has. -/
theorem compile_secured {o : Options} (ho : o.context = .standard) :
    (compile o (ss.map (Statement.rename Iri.secured))).isOk = (compile o ss).isOk ∧
    ∀ r r', compile o ss = .ok r → compile o (ss.map (Statement.rename Iri.secured)) = .ok r' →
      r.graph.DistinctNames .standard →
        r'.preamble = r.preamble ∧
          List.Forall₂ Declaration.Secured r.declarations r'.declarations := by
  -- the spelling of what is not moved does not matter
  have hfull : (ss.map (Statement.rename Iri.secured)).map Statement.full =
      (ss.map (Statement.respell Iri.secured)).map Statement.full := by
    rw [List.map_map, List.map_map]
    exact List.map_congr_left fun s _ => (s.full_rename _).trans (s.full_respell _).symm
  have hagree := compile_respelt o hfull
  refine ⟨hagree.isOk_eq.trans (isOk_compile_secured hss o), fun r r' hr hr' hnames => ?_⟩
  obtain ⟨r'', hr'', hrespelt⟩ := hagree.exists_right hr'
  rw [hrespelt.preamble, hrespelt.declarations]
  exact secured_of_compile hss ho hr hr'' hnames

end

/-- An ontology of the `http:` edition, with a property and an enumeration value. -/
def seasonStatements : List Statement :=
  let term := Edition.http.term
  [{ subject := term "Thing", predicate := rdfType, object := .entity rdfsClass },
   { subject := term "Season", predicate := rdfsSubClassOf, object := .entity (term "Thing") },
   { subject := term "Winter", predicate := rdfType, object := .entity (term "Season") },
   { subject := term "label", predicate := rdfType, object := .entity rdfProperty },
   { subject := term "label", predicate := term "domainIncludes",
     object := .entity (term "Thing") },
   { subject := term "label", predicate := term "rangeIncludes", object := .entity (term "Text") }]

theorem compile_secured_seasonStatements :
    ∃ r r', compile {} seasonStatements = .ok r ∧
      compile {} (seasonStatements.map (Statement.rename Iri.secured)) = .ok r' ∧
      r'.preamble = r.preamble ∧
        List.Forall₂ Declaration.Secured r.declarations r'.declarations := by
  have hss : ∀ s ∈ seasonStatements, ∀ a ∈ s.iris, a.IsUnsecured := by decide +kernel
  obtain ⟨hisOk, hsecured⟩ := compile_secured hss (o := {}) rfl
  have hok : (compile {} seasonStatements).isOk = true := by decide +kernel
  obtain ⟨r, hr⟩ := isOk_iff.1 hok
  obtain ⟨r', hr'⟩ := isOk_iff.1 (hisOk.trans hok)
  have hnames : r.graph.DistinctNames .standard := by
    rw [(compiled_of_compile hr).1]
    refine ⟨?_, ?_, ?_⟩
    · rw [Graph.DistinctIdentifiers]
      decide +kernel
    · decide +kernel
    · decide +kernel
  exact ⟨r, r', hr, hr', hsecured r r' hr hr' hnames⟩

end Ontotype

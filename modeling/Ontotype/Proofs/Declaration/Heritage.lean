import Ontotype.Declaration.Resolve
import Ontotype.Proofs.Graph.Settling

set_option autoImplicit false

/-! # What bases stand on

A base stands on the bases named in its heritage. However the superclasses of an ontology run in
circles, the bases do not (`heritage_acyclic`): the names that a class inherits are those of bases
of classes settled before it, and as long as identifiers are distinct, no base gets a name that
one settled earlier has. -/

namespace Ontotype

/-! ## The relation between bases -/

/-- The bases that a heritage names. -/
def Heritage.names : Heritage → List String
  | .parents names => names
  | .referenceable => []

/-- Among these declarations, a base named `n` stands on the one named `m`. -/
def StandsOn (ds : List Declaration) (n m : String) : Prop :=
  ∃ d ∈ ds, ∃ b, d.base = some b ∧ b.name = n ∧ m ∈ b.heritage.names

/-- In this layout, the class with the base named `n` inherits the one named `m`. -/
def Layout.StandsOn (l : Layout) (n m : String) : Prop :=
  ∃ c s, l.lookup c = some s ∧ s.base? = some n ∧ m ∈ s.inherited

/-- The base named `n` is that of a class of the layout. -/
def Layout.HasBase (l : Layout) (n : String) : Prop :=
  ∃ c s, l.lookup c = some s ∧ s.base? = some n

theorem Shape.eq_baseName {s : Shape} {n : String} (h : s.base? = some n) : n = s.baseName := by
  rw [Shape.base?] at h
  split at h
  · exact absurd h (by simp)
  · exact (Option.some.inj h).symm

theorem Shape.baseName_injective {s t : Shape} (h : s.baseName = t.baseName) :
    s.ident = t.ident :=
  (String.append_left_inj "Base").1 h

/-! ## Layouts -/

namespace Layout.Arises

variable {g : Graph} {l : Layout} {n m : String}

/-- An ordinary class with properties is a node type, and has its base. -/
theorem base?_of_bindings (h : Arises g l) (hg : g.InRange) {c : ClassId} {s : Shape}
    (hc : l.lookup c = some s) (hkind : g.kind c = .ordinary) (hbound : g.bindingsOf c ≠ []) :
    s.base? = some s.baseName := by
  obtain ⟨hids, _, hnode, hproperties⟩ := h.shape_of_class hc
  have hnodeType := Graph.isNodeType_of_bindings hg hids hkind hbound
  refine if_neg ?_
  simp [Shape.omitsBase, hnode, hnodeType, hproperties, hbound]

/-- All that a class inherits are names of bases. -/
theorem hasBase_of_inherited (h : Arises g l) {c : ClassId} {s : Shape} (hc : l.lookup c = some s)
    (hm : m ∈ s.inherited) : l.HasBase m := by
  obtain ⟨p, _, hp⟩ := h.passed_on_of_inherited hc hm
  obtain ⟨a, t, _, ha, hbase⟩ := h.base_of_passed_on hp
  exact ⟨a, t, ha, hbase⟩

/-- A class that is not settled yet has a base name of its own. -/
theorem ne_baseName_of_hasBase (h : Arises g l) (hid : g.DistinctIdentifiers) {c : ClassId}
    (hc : c ∈ g.ids) (hnew : l.lookup c = none) (hn : l.HasBase n) :
    n ≠ (g.shapeAfter l c).baseName := by
  obtain ⟨d, t, hd, hbase⟩ := hn
  intro heq
  obtain ⟨hdids, hident, _⟩ := h.shape_of_class hd
  have hsame : t.ident = (g.shapeAfter l c).ident :=
    Shape.baseName_injective ((Shape.eq_baseName hbase).symm.trans heq)
  have hdc : d = c := hid.eq_of_identifier_eq hdids hc (hident.symm.trans hsame)
  rw [hdc, hnew] at hd
  exact absurd hd (by simp)

/-- No class inherits a base with the name of its own. -/
theorem baseName_not_mem_inherited (h : Arises g l) (hid : g.DistinctIdentifiers) {c : ClassId}
    {s : Shape} (hc : l.lookup c = some s) : s.baseName ∉ s.inherited := by
  induction h with
  | empty => exact absurd hc (by simp)
  | @settle l c' before known new _ ih =>
      rcases (lookup_append_iff new).1 hc with hc | ⟨rfl, rfl⟩
      · exact ih hc
      · intro hmem
        obtain ⟨p, _, hp⟩ := List.mem_flatMap.1 ((mem_sortedSet _ _).1 hmem)
        obtain ⟨a, t, _, ha, hbase⟩ := before.base_of_passed_on hp
        exact before.ne_baseName_of_hasBase hid known new ⟨a, t, ha, hbase⟩ rfl

/-- The bases of a layout do not stand on each other in a circle. Settling one more class adds a
    base that stands on bases already there, and that none of them stands on. -/
theorem not_transGen_standsOn (h : Arises g l) (hid : g.DistinctIdentifiers) :
    ∀ n, ¬ Relation.TransGen l.StandsOn n n := by
  induction h with
  | empty =>
      intro n hn
      obtain ⟨m, ⟨c, s, hc, _⟩, _⟩ := Relation.TransGen.head'_iff.1 hn
      exact absurd hc (by simp)
  | @settle l c before known new _ ih =>
      -- what the new base stands on was there before, and nothing there stands on the new base
      have hstep : ∀ {n m}, Layout.StandsOn (l ++ [(c, g.shapeAfter l c)]) n m →
          l.HasBase m ∧ (l.HasBase n → l.StandsOn n m) := by
        rintro n m ⟨d, s, hd, hbase, hm⟩
        rcases (lookup_append_iff new).1 hd with hd | ⟨rfl, rfl⟩
        · exact ⟨before.hasBase_of_inherited hd hm, fun _ => ⟨d, s, hd, hbase, hm⟩⟩
        · obtain ⟨p, _, hp⟩ := List.mem_flatMap.1 ((mem_sortedSet _ _).1 hm)
          obtain ⟨a, t, _, ha, hbase'⟩ := before.base_of_passed_on hp
          refine ⟨⟨a, t, ha, hbase'⟩, fun hn => ?_⟩
          exact absurd (Shape.eq_baseName hbase) (before.ne_baseName_of_hasBase hid known new hn)
      -- so a chain ends in what was there before, and one that starts there never leaves it
      have hchain : ∀ {n m},
          Relation.TransGen (Layout.StandsOn (l ++ [(c, g.shapeAfter l c)])) n m →
          l.HasBase m ∧ (l.HasBase n → Relation.TransGen l.StandsOn n m) := by
        intro n m hnm
        induction hnm with
        | single hs => exact (hstep hs).imp_right fun hs hn => .single (hs hn)
        | tail _ hs ihnm =>
            obtain ⟨hmid, hchain⟩ := ihnm
            exact ⟨(hstep hs).1, fun hn => (hchain hn).tail ((hstep hs).2 hmid)⟩
      intro n hn
      exact ih n ((hchain hn).2 (hchain hn).1)

end Layout.Arises

/-! ## Declarations -/

namespace Resolver

variable {r : Resolver} {c : ClassId} {b : Base} {n : String}

theorem base_of_declaration (h : (r.declaration c).base = some b) : r.base? c = some b := by
  rw [declaration] at h
  split at h
  · exact absurd h (by simp)
  · exact h

/-- A base has the name, and stands on the bases, that the layout gives it. -/
theorem base_spec (h : r.base? c = some b) :
    (r.layout.shape c).base? = some b.name ∧ b.heritage.names = (r.layout.shape c).inherited ∧
      b.members = r.members c := by
  rw [base?, Option.map_eq_some_iff] at h
  obtain ⟨name, hname, rfl⟩ := h
  refine ⟨hname, ?_, rfl⟩
  dsimp only
  split
  · next hnil => rw [hnil]; rfl
  · rfl

end Resolver

/-- The bases that are declared stand on each other only if those of the layout do. -/
theorem standsOn_layout {g : Graph} (hg : g.InRange) {context : Context}
    {includeDeprecated : Bool} {n m : String}
    (h : StandsOn (g.ids.map (Resolver.ofGraph g context includeDeprecated).declaration) n m) :
    g.layout.StandsOn n m := by
  obtain ⟨d, hd, b, hb, rfl, hm⟩ := h
  obtain ⟨c, hc, rfl⟩ := List.mem_map.1 hd
  obtain ⟨s, hs⟩ := Layout.settled_iff.1 ((layout_arises hg).2 c hc)
  obtain ⟨hname, hnames, _⟩ := Resolver.base_spec (Resolver.base_of_declaration hb)
  have hshape : (Resolver.ofGraph g context includeDeprecated).layout.shape c = s :=
    Layout.shape_of_lookup hs
  rw [hshape] at hname hnames
  exact ⟨c, s, hs, hname, hnames ▸ hm⟩

/-- **Bases never stand on each other in a circle**, whatever circles the superclasses run in: not
    in the layout of a graph, and not in the declarations made from it. In particular no class
    inherits a base with the name of its own. -/
theorem heritage_acyclic {g : Graph} (hg : g.InRange) (hid : g.DistinctIdentifiers) :
    (∀ n, ¬ Relation.TransGen g.layout.StandsOn n n) ∧
      (∀ context includeDeprecated n, ¬ Relation.TransGen
        (StandsOn (g.ids.map (Resolver.ofGraph g context includeDeprecated).declaration)) n n) ∧
      ∀ c ∈ g.ids, (g.layout.shape c).baseName ∉ (g.layout.shape c).inherited := by
  obtain ⟨harises, hall⟩ := layout_arises hg
  refine ⟨harises.not_transGen_standsOn hid, fun context includeDeprecated n hn => ?_,
    fun c hc => ?_⟩
  · have hmono := Relation.TransGen.mono (r := StandsOn (g.ids.map
      (Resolver.ofGraph g context includeDeprecated).declaration)) fun _ _ h => standsOn_layout hg h
    exact harises.not_transGen_standsOn hid n (hmono n n hn)
  · obtain ⟨s, hs⟩ := Layout.settled_iff.1 (hall c hc)
    rw [Layout.shape_of_lookup hs]
    exact harises.baseName_not_mem_inherited hid hs

/-- A hierarchy with two circles that share a class, and a class below itself: `Agent` and `Group`
    are below each other, so are `Group` and `Team`, and `Club` is below itself and `Team`. -/
def circlesGraph : Graph :=
  { classes := ["Agent", "Group", "Team", "Club"].map fun name =>
      .ofKind ⟨"https://schema.org/" ++ name⟩ .ordinary
    superclass := [(0, 1), (1, 0), (1, 2), (2, 1), (3, 3), (3, 2)].foldl
      (fun l p => l.add p.1 p.2) .empty
    properties := [{ iri := ⟨"https://schema.org/size"⟩ }]
    bindings := [{ owner := 1, property := 0, key := ⟨"https://schema.org/size"⟩ }] }

theorem heritage_acyclic_circlesGraph :
    (∀ n, ¬ Relation.TransGen circlesGraph.layout.StandsOn n n) ∧
      (∀ context includeDeprecated n, ¬ Relation.TransGen
        (StandsOn (circlesGraph.ids.map
          (Resolver.ofGraph circlesGraph context includeDeprecated).declaration)) n n) ∧
      ∀ c ∈ circlesGraph.ids,
        (circlesGraph.layout.shape c).baseName ∉ (circlesGraph.layout.shape c).inherited :=
  heritage_acyclic
    ⟨by decide, by decide, by decide, by decide, by decide, by decide⟩
    (by rw [Graph.DistinctIdentifiers]; decide +kernel)

end Ontotype

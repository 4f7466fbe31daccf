import Ontotype.Proofs.Declaration.References

set_option autoImplicit false

/-! # Hiding what is deprecated

Deprecated classes and properties take part in everything up to the layout. Whether they are
included is asked at the very end, where a class is declared, where the members of a base are
listed and where a total type lists the classes below. So an ontology in which they are hidden is
the one in which they are included with some things left out (`compile_hides_only`): deprecated
declarations, deprecated members, and the names under which a total type lists none but deprecated
classes. -/

namespace Ontotype

variable {g : Graph} {context : Context} {c : ClassId}

/-! ## What is left of a declaration -/

/-- The base without its deprecated members. -/
def Base.withoutDeprecated (b : Base) : Base :=
  { b with members := b.members.filter fun m => !m.deprecated }

namespace Graph

/-- The names under which the total type of a class lists the classes below. -/
def childNames (g : Graph) (c : ClassId) : List String :=
  sortedSet ((g.children c).map g.identifier)

/-- A class below `c` that is not deprecated has the identifier `n`. -/
def HasLiveChild (g : Graph) (c : ClassId) (n : String) : Prop :=
  ∃ d ∈ g.children c, g.isDeprecated d = false ∧ g.identifier d = n

instance (g : Graph) (c : ClassId) (n : String) : Decidable (g.HasLiveChild c n) :=
  inferInstanceAs (Decidable (∃ d ∈ g.children c, g.isDeprecated d = false ∧ g.identifier d = n))

end Graph

/-- Of the declaration `D` of the class `c`, hiding what is deprecated leaves `D'`. The names of the
    classes below stand behind the texts and the leaf, and before the aliases. -/
structure Leaves (g : Graph) (c : ClassId) (D D' : Declaration) : Prop where
  fields : D' = { D with base := D.base.map Base.withoutDeprecated, total := D'.total }
  totalOfUnion : D.kind = .dataTypeUnion → D'.total = D.total
  totalOfClass : D.kind ≠ .dataTypeUnion → ∃ before after,
    D.total = before ++ (g.childNames c).map .named ++ after ∧
      D'.total = before ++ ((g.childNames c).filter fun n => g.HasLiveChild c n).map .named
        ++ after ∧
      (∀ n, .named n ∈ before → ∃ leaf, D.leaf = some leaf ∧ leaf.name = n) ∧
      ∀ n, .named n ∉ after

/-- What is compiled as `r` with all that is deprecated is compiled as `r'` without it. -/
structure Compiled.HidesOnly (r r' : Compiled) : Prop where
  graph : r'.graph = r.graph
  preamble : r'.preamble = r.preamble
  findings : r'.findings.filter (fun d => d.kind ≠ .nameCollision) =
    r.findings.filter fun d => d.kind ≠ .nameCollision
  declarations : List.Forall₂
    (fun D D' => ∃ c, r.graph.find? D.iri = some c ∧ Leaves r.graph c D D')
    (r.declarations.filter fun D => !D.deprecated) r'.declarations

/-! ## Resolving with and without what is deprecated -/

namespace Resolver

theorem visible_true (g : Graph) (context : Context) (c : ClassId) :
    (ofGraph g context true).visible c = true := by
  rw [visible]
  rfl

theorem visible_false (g : Graph) (context : Context) (c : ClassId) :
    (ofGraph g context false).visible c = !g.isDeprecated c := by
  rw [visible]
  rfl

theorem members_false (g : Graph) (context : Context) (c : ClassId) :
    (ofGraph g context false).members c =
      ((ofGraph g context true).members c).filter fun m => !m.deprecated := by
  have hall : (g.bindingsOf c).filter
      (fun b => (ofGraph g context true).visibleProperty b.property) = g.bindingsOf c :=
    List.filter_eq_self.2 fun _ _ => rfl
  unfold members
  rw [filter_sortWith, List.filter_map]
  refine congrArg (sortWith _) (congrArg (List.map _) ?_)
  show _ = ((g.bindingsOf c).filter _).filter _
  rw [hall]
  rfl

theorem base?_false (g : Graph) (context : Context) (c : ClassId) :
    (ofGraph g context false).base? c =
      ((ofGraph g context true).base? c).map Base.withoutDeprecated := by
  unfold base?
  rw [Option.map_map, members_false]
  rfl

theorem leaf?_false (g : Graph) (context : Context) (c : ClassId) :
    (ofGraph g context false).leaf? c = (ofGraph g context true).leaf? c := by
  unfold leaf?
  rw [base?_false]
  cases (ofGraph g context true).base? c <;> rfl

/-- The children that are included, by name. -/
theorem childNames_true (g : Graph) (context : Context) (c : ClassId) :
    sortedSet (((g.children c).filter (ofGraph g context true).visible).map g.identifier) =
      g.childNames c := by
  rw [List.filter_eq_self.2 fun d _ => visible_true g context d]
  rfl

theorem childNames_false (g : Graph) (context : Context) (c : ClassId) :
    sortedSet (((g.children c).filter (ofGraph g context false).visible).map g.identifier) =
      (g.childNames c).filter fun n => g.HasLiveChild c n := by
  refine (filter_sortedSet fun n => ?_).symm
  simp only [List.mem_map, List.mem_filter, visible_false, Bool.not_eq_true', decide_eq_true_iff]
  constructor
  · rintro ⟨d, ⟨hchild, hlive⟩, hname⟩
    exact ⟨⟨d, hchild, hname⟩, d, hchild, hlive, hname⟩
  · rintro ⟨_, d, hchild, hlive, hname⟩
    exact ⟨d, ⟨hchild, hlive⟩, hname⟩

theorem spellings_false (g : Graph) (context : Context) :
    (ofGraph g context false).spellings = (ofGraph g context true).spellings :=
  rfl

/-- The parts of the total type of a class, where `names` are those of the classes below. -/
theorem total_ofGraph (context : Context) (includeDeprecated : Bool)
    (h : g.kind c ≠ .dataTypeUnion) {names : List String}
    (hnames : sortedSet (((g.children c).filter (ofGraph g context includeDeprecated).visible).map
      g.identifier) = names) :
    ((ofGraph g context includeDeprecated).declaration c).total =
      ((sortedSet ((g.valuesOf c).flatMap (ofGraph g context includeDeprecated).spellings)).map
          .literal
        ++ ((ofGraph g context includeDeprecated).leaf? c).toList.map fun leaf => .named leaf.name)
      ++ names.map .named ++ g.aliases c := by
  rw [← hnames]
  exact total_of_class h

/-- Hiding what is deprecated changes nothing but the members and the total type. -/
theorem declaration_false (g : Graph) (context : Context) (c : ClassId) :
    (ofGraph g context false).declaration c =
      { (ofGraph g context true).declaration c with
        base := ((ofGraph g context true).declaration c).base.map Base.withoutDeprecated
        total := ((ofGraph g context false).declaration c).total } := by
  unfold declaration
  rw [base?_false, leaf?_false]
  refine (Declaration.mk.injEq ..).mpr ⟨rfl, rfl, rfl, rfl, rfl, rfl, rfl, ?_, rfl, rfl, rfl⟩
  show (if g.kind c = .dataTypeUnion then none else _) =
    Option.map _ (if g.kind c = .dataTypeUnion then none else _)
  split <;> rfl

/-- What is declared of a class if what is deprecated is hidden. -/
theorem leaves_declaration (hg : g.InRange) (hc : c ∈ g.ids)
    (haliases : ∀ a ∈ g.ids, ∀ t ∈ (g.entry a).aliases, ∃ p, t = .primitive p) :
    Leaves g c ((ofGraph g context true).declaration c)
      ((ofGraph g context false).declaration c) where
  fields := declaration_false g context c
  totalOfUnion hunion := by
      have hunion : g.kind c = .dataTypeUnion := hunion
      rw [total_of_union (r := ofGraph g context true) hunion,
        total_of_union (r := ofGraph g context false) hunion]
      rfl
  totalOfClass hclass := by
      have hclass : g.kind c ≠ .dataTypeUnion := hclass
      rw [total_ofGraph context true hclass (childNames_true g context c),
        total_ofGraph context false hclass (childNames_false g context c),
        leaf_of_class (r := ofGraph g context true) hclass, leaf?_false, spellings_false]
      exact ⟨_, _, rfl, rfl, fun _ => exists_leaf_of_named_mem,
        Graph.named_notMem_aliases hg hc haliases⟩

end Resolver

/-! ## Compiling with and without what is deprecated -/

/-- A finding about declarations is about a shared name. -/
theorem kind_of_mem_collisions {d : Diagnostic} {ds : List Declaration} :
    ∀ before, d ∈ collisions before ds → d.kind = .nameCollision := by
  induction ds with
  | nil => exact fun _ hd => absurd hd List.not_mem_nil
  | cons D ds ih =>
      intro before hd
      rw [collisions, List.mem_append, Option.mem_toList, collision?] at hd
      rcases hd with hd | hd
      · split at hd
        · rw [← Option.some.inj hd]
          rfl
        · obtain ⟨E, _, rfl⟩ := Option.map_eq_some_iff.1 hd
          rfl
      · exact ih (D :: before) hd

/-- Whoever does not look for shared names finds what was found on the way. -/
theorem filter_findings_of_compiled {p : Diagnostic → Bool}
    (hp : ∀ d, d.kind = .nameCollision → p d = false) (b : Build) (o : Options) :
    (b.compiled o).findings.filter p = b.findings.filter p := by
  have hnone : (collisions [] (declarationsOf b.graph o)).filter p = [] := by
    refine List.filter_eq_nil_iff.2 fun d hd => ?_
    rw [hp d (kind_of_mem_collisions [] hd)]
    exact Bool.false_ne_true
  rw [Build.compiled, List.filter_append, hnone, List.append_nil]

theorem filter_findings_compiled (b : Build) (o : Options) :
    (b.compiled o).findings.filter (fun d => d.kind ≠ .nameCollision) =
      b.findings.filter fun d => d.kind ≠ .nameCollision :=
  filter_findings_of_compiled (fun d hd => by simp [hd]) b o

/-- The declarations that are left are those of the classes that are not deprecated, in the same
    order. -/
theorem forall₂_declarationsOf (hg : g.InRange) (hnodup : g.classIris.Nodup)
    (haliases : ∀ a ∈ g.ids, ∀ t ∈ (g.entry a).aliases, ∃ p, t = .primitive p) :
    List.Forall₂ (fun D D' => ∃ c, g.find? D.iri = some c ∧ Leaves g c D D')
      ((declarationsOf g { includeDeprecated := true, context }).filter fun D => !D.deprecated)
      (declarationsOf g { includeDeprecated := false, context }) := by
  have hall : g.sortedIds.filter (Resolver.ofGraph g context true).visible = g.sortedIds :=
    List.filter_eq_self.2 fun c _ => Resolver.visible_true g context c
  have hlive : (Resolver.ofGraph g context false).visible = fun c => !g.isDeprecated c :=
    funext fun c => Resolver.visible_false g context c
  unfold declarationsOf
  dsimp only
  rw [hall, hlive, List.filter_map, List.forall₂_map_left_iff, List.forall₂_map_right_iff]
  refine List.forall₂_same.2 fun c hc => ⟨c, ?_, ?_⟩
  · exact Graph.find?_iri hnodup ((sortedIds_perm g).mem_iff.1 (List.mem_of_mem_filter hc))
  · exact Resolver.leaves_declaration hg
      ((sortedIds_perm g).mem_iff.1 (List.mem_of_mem_filter hc)) haliases

/-- **Including what is deprecated or not decides only what is left out.** Either both ways of
    compiling fail, with the same error, or both succeed, and the one hides what the other one
    includes. -/
theorem compile_hides_only (context : Context) (ss : List Statement) :
    (∃ e, compile { includeDeprecated := true, context } ss = .error e ∧
      compile { includeDeprecated := false, context } ss = .error e) ∨
    ∃ r r', compile { includeDeprecated := true, context } ss = .ok r ∧
      compile { includeDeprecated := false, context } ss = .ok r' ∧ r.HidesOnly r' := by
  unfold compile
  dsimp only
  cases context.validate with
  | error e => exact Or.inl ⟨.invalidContext e, rfl, rfl⟩
  | ok _ =>
      cases hb : assemble (topicsOf ss) with
      | error e => exact Or.inl ⟨e, rfl, rfl⟩
      | ok b =>
          have hp := portrays_assembledGraph ss
          rw [← graph_of_assemble hb] at hp
          refine Or.inr ⟨_, _, rfl, rfl, rfl, rfl, ?_, ?_⟩
          · rw [filter_findings_compiled, filter_findings_compiled]
          · exact forall₂_declarationsOf hp.inRange hp.nodup_classIris hp.aliases_primitive

end Ontotype

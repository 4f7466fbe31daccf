import Ontotype.Proofs.Graph.Search
import Ontotype.Proofs.Graph.Settling

set_option autoImplicit false

/-! # Layouts with a memory

`Graph.layout` settles one class after the other, and looks up in the layout so far what the
superclasses of a class pass on. The same layout is computed by two functions that call each other:
what a class inherits is collected from what its superclasses pass on, and what a class passes on
depends on what it inherits. Each of the two keeps its results in a table. A class whose
superclasses are being visited passes on nothing for the time being, and no result is kept of that.

A memory *mirrors* the layout that has been reached (`Mirrors`): its tables hold what the shapes of
the layout say, and it has visited the superclasses once of each class that is settled, or waits. So
the functions follow the walk that settles classes, step by step (`inherit_follows`), and what is
passed on early agrees with the layout in the end. -/

namespace Ontotype

open Layout

/-! ## Computing with a memory -/

/-- What has been computed of a layout. -/
structure Memo where
  /-- The bases that a class inherits. -/
  inherited : ClassId → Option (List String) := fun _ => none
  /-- The bases that a class passes on. -/
  passed : ClassId → Option (List String) := fun _ => none
  /-- Whether the superclasses of a class are being visited. -/
  waits : ClassId → Bool := fun _ => false
  /-- Every time that the superclasses of a class began to be visited. -/
  expansions : List Expansion := []

variable {g : Graph} {l : Layout} {m : Memo} {c : ClassId} {path : List ClassId} {s : Shape}

namespace Memo

/-- Begins to visit the superclasses of `c`. -/
def enter (m : Memo) (path : List ClassId) (c : ClassId) : Memo :=
  { m with
    waits := Function.update m.waits c true
    expansions := m.expansions ++ [⟨c, path⟩] }

/-- Ends the visits to the superclasses of `c`, which inherits the bases `names`. -/
def leave (m : Memo) (c : ClassId) (names : List String) : Memo :=
  { m with
    waits := Function.update m.waits c false
    inherited := Function.update m.inherited c (some names) }

/-- Keeps what `c` passes on. -/
def pass (m : Memo) (c : ClassId) (names : List String) : Memo :=
  { m with passed := Function.update m.passed c (some names) }

end Memo

/-- Visits one class after the other, and collects what the visits come to. -/
def collect (visit : Memo → ClassId → Option (List String × Memo)) :
    List String → Memo → List ClassId → Option (List String × Memo)
  | names, m, [] => some (names, m)
  | names, m, c :: cs =>
    match visit m c with
    | some (more, m) => collect visit (names ++ more) m cs
    | none => none

namespace Graph

/-- The shape of a class that inherits the bases `names`. -/
def shapeWith (g : Graph) (c : ClassId) (names : List String) : Shape :=
  { ident := g.identifier c
    isNodeType := g.isNodeType c
    hasProperties := !(g.bindingsOf c).isEmpty
    inherited := names }

/-- The bases that `c` passes on, if `inherit` computes those that it inherits. -/
def passOn (g : Graph) (inherit : Memo → ClassId → Option (List String × Memo)) (m : Memo)
    (c : ClassId) : Option (List String × Memo) :=
  match m.passed c with
  | some names => some (names, m)
  | none =>
    if m.waits c then some ([], m)
    else
      match inherit m c with
      | some (names, m) =>
        some ((g.shapeWith c names).references, m.pass c (g.shapeWith c names).references)
      | none => none

/-- The bases that `c` inherits, while the classes of `path` wait. There is no result if more than
    `budget` classes have to wait for each other. -/
def inherit (g : Graph) : Nat → List ClassId → Memo → ClassId → Option (List String × Memo)
  | 0, _, _, _ => none
  | budget + 1, path, m, c =>
    match m.inherited c with
    | some names => some (names, m)
    | none =>
      match collect (g.passOn (g.inherit budget (c :: path))) [] (m.enter path c)
        (g.byIdentifier (g.parents c)) with
      | some (names, m) => some (sortedSet names, m.leave c (sortedSet names))
      | none => none

/-- What is kept when it has been computed what every class inherits. -/
def memoize (g : Graph) (budget : Nat) : Option Memo :=
  (collect (g.inherit budget []) [] {} (g.byIdentifier g.ids)).map Prod.snd

end Graph

/-! ## Settled classes -/

namespace Layout

theorem mem_keys_iff : c ∈ l.map Prod.fst ↔ l.settled c = true := by
  rw [settled, List.lookup_isSome_iff, List.mem_map]
  exact exists_congr fun e => and_congr_right fun _ => eq_comm.trans beq_iff_eq.symm

/-- Every class is settled once. -/
theorem Arises.nodup_keys (h : Arises g l) : (l.map Prod.fst).Nodup := by
  induction h with
  | empty => exact List.nodup_nil
  | @settle l c _ _ new _ ih =>
      have hc : c ∉ l.map Prod.fst := by
        rw [mem_keys_iff, Bool.not_eq_true, not_settled_iff]
        exact new
      rw [List.map_append]
      exact (List.perm_append_singleton c _).nodup_iff.2 (List.nodup_cons.2 ⟨hc, ih⟩)

theorem Arises.eq_shapeWith (h : Arises g l) (hc : l.lookup c = some s) :
    g.shapeWith c s.inherited = s := by
  obtain ⟨_, hident, hnode, hproperties⟩ := h.shape_of_class hc
  rw [Graph.shapeWith, ← hident, ← hnode, ← hproperties]

theorem inherited_shapeAfter (g : Graph) (l : Layout) (c : ClassId) :
    (g.shapeAfter l c).inherited =
      sortedSet ((g.byIdentifier (g.parents c)).flatMap l.references) :=
  sortedSet_congr fun n => by simp [mem_byIdentifier]

end Layout

/-! ## Memories of layouts -/

/-- The memory `m` is what has been computed when the classes of `l` are settled, and those of
    `path` wait. -/
structure Mirrors (g : Graph) (path : List ClassId) (l : Layout) (m : Memo) : Prop where
  inherited : ∀ c, m.inherited c = (l.lookup c).map Shape.inherited
  passed : ∀ c names, m.passed c = some names → ∃ s, l.lookup c = some s ∧ names = s.references
  waits : ∀ c, m.waits c = true ↔ c ∈ path
  expanded : (expanded m.expansions).Perm (l.map Prod.fst ++ path)
  nested : Nested m.expansions

namespace Mirrors

theorem empty : Mirrors g [] [] {} where
  inherited _ := rfl
  passed _ _ h := absurd h (by simp)
  waits _ := by simp
  expanded := List.Perm.nil
  nested _ he := absurd he List.not_mem_nil

theorem enter (h : Mirrors g path l m) (hpath : (c :: path).Nodup) :
    Mirrors g (c :: path) l (m.enter path c) where
  inherited := h.inherited
  passed := h.passed
  waits d := by
      by_cases hdc : d = c
      · simp [Memo.enter, hdc]
      · simp [Memo.enter, hdc, h.waits d]
  expanded := by
      rw [Memo.enter, expanded_append_singleton]
      exact (List.perm_append_singleton c _).trans ((h.expanded.cons c).trans List.perm_middle.symm)
  nested := h.nested.append hpath

theorem leave (h : Mirrors g (c :: path) l m) (hoff : c ∉ path) (hnew : l.lookup c = none) :
    Mirrors g path (l ++ [(c, s)]) (m.leave c s.inherited) where
  inherited d := by
      by_cases hdc : d = c
      · simp [Memo.leave, hdc, lookup_append_self hnew]
      · rw [lookup_append_of_ne hdc, ← h.inherited d]
        simp [Memo.leave, hdc]
  passed d names hd := by
      obtain ⟨t, ht, hnames⟩ := h.passed d names hd
      exact ⟨t, extends_append hnew d t ht, hnames⟩
  waits d := by
      by_cases hdc : d = c
      · simp [Memo.leave, hdc, hoff]
      · simp [Memo.leave, hdc, h.waits d]
  expanded := by
      rw [List.map_append, List.append_assoc]
      exact h.expanded
  nested := h.nested

theorem pass (h : Mirrors g path l m) (hc : l.lookup c = some s) :
    Mirrors g path l (m.pass c s.references) where
  inherited := h.inherited
  passed d names hd := by
      by_cases hdc : d = c
      · subst hdc
        refine ⟨s, hc, ?_⟩
        simpa [Memo.pass, eq_comm] using hd
      · exact h.passed d names (by simpa [Memo.pass, hdc] using hd)
  waits := h.waits
  expanded := h.expanded
  nested := h.nested

end Mirrors

/-! ## The functions follow the walk -/

/-- A visit to `c` with a memory comes to what `read` makes of its shape in the layout that `settle`
    reaches, and leaves a memory of that layout. -/
def Follows (g : Graph) (path : List ClassId) (read : Shape → List String)
    (visit : Memo → ClassId → Option (List String × Memo)) (settle : Layout → ClassId → Layout)
    (c : ClassId) : Prop :=
  ∀ l m, Settles g path l l → Mirrors g path l m →
    ∃ m', visit m c = some (((settle l c).lookup c).elim [] read, m') ∧
      Mirrors g path (settle l c) m'

variable {visit : Memo → ClassId → Option (List String × Memo)}
  {settle : Layout → ClassId → Layout} {budget : Nat}

/-- What visits come to, one after the other: a class keeps its shape in all later visits. -/
theorem collect_follows {read : Shape → List String} (hsettle : SettlesAbove g path settle)
    (hvisit : ∀ c, g.AboveAll path c → Follows g path read visit settle c) (cs : List ClassId) :
    ∀ names l m, (∀ c ∈ cs, g.AboveAll path c) → Settles g path l l → Mirrors g path l m →
      ∃ m', collect visit names m cs =
        some (names ++ cs.flatMap fun c => ((cs.foldl settle l).lookup c).elim [] read, m') ∧
        Mirrors g path (cs.foldl settle l) m' := by
  induction cs with
  | nil =>
      intro names l m _ _ hm
      exact ⟨m, by rw [collect, List.flatMap_nil, List.append_nil], hm⟩
  | cons c cs ih =>
      intro names l m hcs hl hm
      have habove := hcs c List.mem_cons_self
      have hcs' : ∀ x ∈ cs, g.AboveAll path x := fun x hx => hcs x (List.mem_cons_of_mem c hx)
      obtain ⟨hfirst, hc⟩ := hsettle l c habove hl
      obtain ⟨m₁, hvisit₁, hm₁⟩ := hvisit c habove l m hl hm
      obtain ⟨m', hrest, hm'⟩ :=
        ih (names ++ ((settle l c).lookup c).elim [] read) _ m₁ hcs' hfirst.refl hm₁
      have hkept := (hsettle.foldl cs _ hcs' hfirst.refl).1.lookup_eq hfirst.refl hc
      refine ⟨m', ?_, hm'⟩
      rw [collect, hvisit₁, List.foldl_cons, List.flatMap_cons, hkept, ← List.append_assoc]
      exact hrest

/-- If `inherit` follows the walk where a class does not wait, so does what the class passes on,
    where it waits and where it does not. -/
theorem passOn_follows (hsettle : SettlesAbove g path (g.settle budget path))
    (hc : g.AboveAll path c)
    (hinherit : c ∉ path → Follows g path Shape.inherited visit (g.settle budget path) c) :
    Follows g path Shape.references (g.passOn visit) (g.settle budget path) c := by
  intro l m hl hm
  rw [Graph.passOn]
  cases hpassed : m.passed c with
  | some names =>
      obtain ⟨s, hs, rfl⟩ := hm.passed c names hpassed
      rw [settle_of_done (Or.inl (settled_iff.2 ⟨s, hs⟩)), hs]
      exact ⟨m, rfl, hm⟩
  | none =>
      by_cases hwaits : m.waits c = true
      · have hmem := (hm.waits c).1 hwaits
        rw [settle_of_done (Or.inr hmem), hl.waiting c hmem]
        exact ⟨m, if_pos hwaits, hm⟩
      · have hoff : c ∉ path := fun hmem => hwaits ((hm.waits c).2 hmem)
        obtain ⟨hsettles, hdone⟩ := hsettle l c hc hl
        obtain ⟨s, hs⟩ := settled_iff.1 (hdone.resolve_right hoff)
        obtain ⟨m', hrun, hm'⟩ := hinherit hoff l m hl hm
        rw [hs, Option.elim_some] at hrun ⊢
        refine ⟨m'.pass c s.references, ?_, hm'.pass hs⟩
        simp only [if_neg hwaits, hrun, hsettles.arises.eq_shapeWith hs]

/-- What a class inherits is computed within the budget, if the class does not wait. -/
theorem inherit_follows (hg : g.InRange) (budget : Nat) :
    ∀ limit path c, budget ≤ limit → Seen g.size budget path → c ∉ path → g.AboveAll path c →
      Follows g path Shape.inherited (g.inherit limit path) (g.settle budget path) c := by
  induction budget with
  | zero =>
      intro limit path c _ hpath hoff hc
      exact absurd (hpath.mem_of_full (Graph.mem_ids.1 hc.1)) hoff
  | succ budget ih =>
      intro limit path c hlimit hpath hoff hc l m hl hm
      obtain ⟨limit, rfl⟩ := Nat.exists_eq_add_one_of_ne_zero (Nat.ne_zero_of_lt hlimit)
      rw [Graph.inherit]
      cases hknown : m.inherited c with
      | some names =>
          rw [hm.inherited c] at hknown
          obtain ⟨s, hs, rfl⟩ := Option.map_eq_some_iff.1 hknown
          rw [settle_of_done (Or.inl (settled_iff.2 ⟨s, hs⟩)), hs]
          exact ⟨m, rfl, hm⟩
      | none =>
          have hnone : l.lookup c = none := by
            rwa [hm.inherited c, Option.map_eq_none_iff] at hknown
          have hskip : ¬ (l.settled c = true ∨ c ∈ path) := by
            rw [not_or, Bool.not_eq_true, not_settled_iff]
            exact ⟨hnone, hoff⟩
          have hpath' : Seen g.size budget (c :: path) := hpath.cons (Graph.mem_ids.1 hc.1) hoff
          have hsettle := settle_settles hg budget (c :: path) hpath'
          have hparents : ∀ p ∈ g.byIdentifier (g.parents c), g.AboveAll (c :: path) p :=
            fun p hp => hc.parent hg (mem_byIdentifier.1 hp)
          -- the superclasses are visited as the walk settles them
          obtain ⟨m', hcollect, hm'⟩ := collect_follows hsettle
            (fun p hp => passOn_follows hsettle hp fun hoff' =>
              ih limit (c :: path) p (Nat.le_of_succ_le_succ hlimit) hpath' hoff' hp)
            _ [] l _ hparents (hl.wait hnone) (hm.enter hpath'.nodup)
          have hnew := (hsettle.foldl _ l hparents (hl.wait hnone)).1.waiting c List.mem_cons_self
          rw [Graph.settle, if_neg hskip]
          refine ⟨_, ?_, hm'.leave hoff hnew⟩
          rw [lookup_append_self hnew, Option.elim_some, inherited_shapeAfter]
          simp only [hcollect]
          rfl

/-- The memory mirrors the layout in the end. -/
theorem memoize_mirrors (hg : g.InRange) (hbudget : g.size ≤ budget) :
    ∃ m, g.memoize budget = some m ∧ Mirrors g [] g.layout m := by
  have hroom : Seen g.size g.size [] := .empty (Nat.le_refl g.size)
  obtain ⟨m, hcollect, hm⟩ := collect_follows (settle_settles hg g.size [] hroom)
    (fun c hc => inherit_follows hg g.size budget [] c hbudget hroom List.not_mem_nil hc)
    (g.byIdentifier g.ids) [] [] {} (fun c hc => Graph.aboveAll_nil (mem_byIdentifier.1 hc))
    .empty .empty
  exact ⟨m, by rw [Graph.memoize, hcollect, Option.map_some], hm⟩

/-- Every class is settled, and no other. -/
theorem keys_layout_perm (hg : g.InRange) : (g.layout.map Prod.fst).Perm g.ids := by
  obtain ⟨harises, hall⟩ := layout_arises hg
  refine (List.perm_ext_iff_of_nodup harises.nodup_keys g.nodup_ids).2 fun c => ?_
  rw [mem_keys_iff]
  refine ⟨fun hc => ?_, hall c⟩
  obtain ⟨s, hs⟩ := settled_iff.1 hc
  exact (harises.shape_of_class hs).1

/-! ## What is computed -/

theorem Shape.omitsBase_iff : s.omitsBase = true ↔
    s.isNodeType = false ∨ s.inherited.length = 1 ∧ s.hasProperties = false := by
  simp [Shape.omitsBase]

/-- **What the layout says of a class** is what has been computed of it. A class inherits, as a
    sorted set, nothing but what its superclasses pass on, and everything that is passed on by a
    superclass that is not below the class itself; so outside of circles it inherits exactly what
    its superclasses pass on. It has no base if it is no node type, or inherits one base and has no
    properties. -/
theorem layout_equations (hg : g.InRange) (hbudget : g.size ≤ budget) :
    ∃ m, g.memoize budget = some m ∧ ∀ c ∈ g.ids, ∃ s,
      g.layout.lookup c = some s ∧ s = g.shapeWith c s.inherited ∧
      m.inherited c = some s.inherited ∧ (∀ names, m.passed c = some names → names = s.references) ∧
      s.inherited.Pairwise (· < ·) ∧
      (∀ n ∈ s.inherited, ∃ p, g.Below c p ∧ n ∈ g.layout.references p) ∧
      (∀ p, g.Below c p → ¬ g.Above p c → g.layout.references p ⊆ s.inherited) ∧
      (s.omitsBase = true ↔
        g.isNodeType c = false ∨ s.inherited.length = 1 ∧ g.bindingsOf c = []) ∧
      (¬ Relation.TransGen g.Below c c →
        s.inherited = sortedSet ((g.parents c).flatMap g.layout.references)) := by
  obtain ⟨m, hm, hmirrors⟩ := memoize_mirrors hg hbudget
  obtain ⟨harises, hall⟩ := layout_arises hg
  refine ⟨m, hm, fun c hc => ?_⟩
  obtain ⟨s, hs⟩ := settled_iff.1 (hall c hc)
  obtain ⟨_, _, hnode, hproperties⟩ := harises.shape_of_class hs
  have hsound : ∀ n ∈ s.inherited, ∃ p, g.Below c p ∧ n ∈ g.layout.references p :=
    fun n hn => harises.passed_on_of_inherited hs hn
  have hcomplete : ∀ p, g.Below c p → ¬ g.Above p c → g.layout.references p ⊆ s.inherited :=
    fun p hp hcircle => (harises.references_subset_inherited hs hp hcircle).2
  refine ⟨s, hs, (harises.eq_shapeWith hs).symm, ?_, fun names hnames => ?_,
    harises.pairwise_inherited hs, hsound, hcomplete, ?_, fun hcircle => ?_⟩
  · rw [hmirrors.inherited c, hs, Option.map_some]
  · obtain ⟨t, ht, hreferences⟩ := hmirrors.passed c names hnames
    rw [hreferences, Option.some.inj (hs.symm.trans ht)]
  · rw [Shape.omitsBase_iff, hnode, hproperties]
    simp
  · refine eq_sortedSet (harises.pairwise_inherited hs) fun n => ?_
    rw [List.mem_flatMap]
    refine ⟨hsound n, ?_⟩
    rintro ⟨p, hp, hn⟩
    exact hcomplete p hp (fun ha => hcircle (Relation.TransGen.head' hp ha)) hn

/-- A ladder: the classes of each rung, `A1` and `B1`, `A2` and `B2`, are below both classes of the
    rung before, so is `C` at the end. `A0` is below `A2`, which closes circles; `B0` and `C` are on
    none. `A1` and `B1` have a property. -/
def ladderGraph : Graph :=
  { classes := ["A0", "B0", "A1", "B1", "A2", "B2", "C"].map fun name =>
      .ofKind ⟨"https://schema.org/" ++ name⟩ .ordinary
    superclass := [(2, 0), (2, 1), (3, 0), (3, 1), (4, 2), (4, 3), (5, 2), (5, 3), (0, 4), (6, 4),
      (6, 5)].foldl (fun l p => l.add p.1 p.2) .empty
    properties := [{ iri := ⟨"https://schema.org/size"⟩ }]
    bindings := [2, 3].map fun c =>
      { owner := c, property := 0, key := ⟨"https://schema.org/size"⟩ } }

theorem inRange_ladderGraph : ladderGraph.InRange :=
  ⟨by decide, by decide, by decide, by decide, by decide, by decide⟩

/-- `A1` is on a circle with `A0`, and does not inherit the base that `A0` passes on. -/
theorem layout_equations_ladderGraph :
    ladderGraph.layout.references 0 = ["A2Base"] ∧
    ∃ m, ladderGraph.memoize 7 = some m ∧ m.inherited 2 = some ["B0Base"] ∧
      m.inherited 6 = some ["A2Base", "B2Base"] ∧
      (ladderGraph.layout.shape 6).inherited =
        sortedSet ((ladderGraph.parents 6).flatMap ladderGraph.layout.references) := by
  obtain ⟨m, hm, hall⟩ := layout_equations inRange_ladderGraph (Nat.le_refl ladderGraph.size)
  refine ⟨by decide +kernel, m, hm, ?_, ?_⟩
  · obtain ⟨s, hs, _, hinherited, _⟩ := hall 2 (by decide)
    rw [hinherited, ← shape_of_lookup hs]
    decide +kernel
  · obtain ⟨s, hs, _, hinherited, _, _, _, _, _, hexact⟩ := hall 6 (by decide)
    have hfree : ¬ Relation.TransGen ladderGraph.Below 6 6 := by
      intro hcircle
      obtain ⟨c, _, hc⟩ := Relation.TransGen.tail'_iff.1 hcircle
      have hnone : ∀ l ∈ ladderGraph.superclass.pairs, l.2 ≠ 6 := by decide
      exact hnone _ (Link.mem_targets.1 hc) rfl
    rw [hinherited, ← shape_of_lookup hs]
    refine ⟨by decide +kernel, ?_⟩
    rw [shape_of_lookup hs]
    exact hexact hfree

/-- **Every walk through the class graph ends**, whatever circles there are: there is a result when
    visits nest no deeper than there are classes, because no class is expanded while an expansion of
    it is under way. Each search expands a class once at most. The computation of the whole layout
    visits the superclasses of each class exactly once, however many ways lead to the class. -/
theorem walks_end (hg : g.InRange) (hbudget : g.size < budget) :
    (∀ c ∈ g.ids,
      (∃ es, g.markSearch.run budget [] [] c = some (g.isClassified c, es) ∧
        Nested es ∧ (expanded es).Nodup) ∧
      (∃ es, g.valueSearch.run budget [] [] c = some (!g.isNodeType c, es) ∧
        Nested es ∧ (expanded es).Nodup) ∧
      ∃ es, g.fullSearch.run budget [] [] c = some (false, es) ∧
        Nested es ∧ (expanded es).Nodup ∧
        TypeRef.sortedSet ((expanded es).flatMap fun a => (g.entry a).aliases) = g.aliases c) ∧
    ∃ m, g.memoize budget = some m ∧
      Nested m.expansions ∧ (expanded m.expansions).Perm g.ids ∧
      ∀ c ∈ g.ids, m.inherited c = some (g.layout.shape c).inherited := by
  refine ⟨fun c hc => ⟨?_, ?_, ?_⟩, ?_⟩
  · obtain ⟨es, hrun, htidy⟩ := Graph.run_markSearch hg hbudget hc
    exact ⟨es, hrun, htidy.nested, htidy.once⟩
  · obtain ⟨es, hrun, htidy⟩ := Graph.run_valueSearch hg (fun _ => .refl _) hbudget hc
    exact ⟨es, hrun, htidy.nested, htidy.once⟩
  · obtain ⟨es, hrun, htidy, haliases⟩ := Graph.run_fullSearch hg hbudget hc
    exact ⟨es, hrun, htidy.nested, htidy.once, haliases⟩
  · obtain ⟨m, hm, hmirrors⟩ := memoize_mirrors hg (Nat.le_of_lt hbudget)
    have hkeys : (expanded m.expansions).Perm (g.layout.map Prod.fst) := by
      simpa using hmirrors.expanded
    refine ⟨m, hm, hmirrors.nested, hkeys.trans (keys_layout_perm hg), fun c hc => ?_⟩
    obtain ⟨s, hs⟩ := settled_iff.1 ((layout_arises hg).2 c hc)
    rw [hmirrors.inherited c, hs, Option.map_some, shape_of_lookup hs]

theorem walks_end_ladderGraph :
    (∃ es, ladderGraph.markSearch.run 8 [] [] 6 = some (ladderGraph.isClassified 6, es) ∧
      Nested es ∧ (expanded es).Nodup) ∧
    ∃ m, ladderGraph.memoize 8 = some m ∧ Nested m.expansions ∧
      (expanded m.expansions).Perm [0, 1, 2, 3, 4, 5, 6] := by
  obtain ⟨hsearches, m, hm, hnested, hperm, _⟩ := walks_end inRange_ladderGraph (Nat.lt_succ_self 7)
  exact ⟨(hsearches 6 (by decide)).1, m, hm, hnested, hperm⟩

end Ontotype

import Ontotype.Proofs.Assembly.Passing
import Ontotype.Proofs.Compile

set_option autoImplicit false

/-! # Declarations stand in strict order

The comparison of places counts all unions as equal, whatever their names, and is a total preorder
all the same. No assembly makes two unions or two classes of one IRI, so it tells the classes of an
ontology apart, and there is one order in which each class comes strictly before the next. That is
the order of the declarations (`declarations_ordered`). -/

namespace Ontotype

open Vocabulary

variable {o : Options} {ss : List Statement} {r : Compiled} {g : Graph}

/-! ## Orders -/

/-- The list holds all classes of the graph, each in strict order before the next. -/
structure Graph.Orders (g : Graph) (cs : List ClassId) : Prop where
  perm : cs.Perm g.ids
  strict : cs.IsChain fun c d => g.compareClasses c d = .lt

/-- What decides the place of a declaration. -/
def Declaration.place (D : Declaration) : Place :=
  { kind := D.kind, name := D.iri.localName, iri := D.iri.text }

/-- Every class that is included is declared, once, and declarations are in strict order. -/
structure Compiled.Ordered (o : Options) (r : Compiled) : Prop where
  iris : r.declarations.map Declaration.iri =
    (r.graph.sortedIds.filter fun c => o.includeDeprecated || !r.graph.isDeprecated c).map
      r.graph.iri
  declared : ∀ c ∈ r.graph.ids, (o.includeDeprecated = true ∨ r.graph.isDeprecated c = false) ↔
    r.graph.iri c ∈ r.declarations.map Declaration.iri
  once : (r.declarations.map Declaration.iri).Nodup
  strict : r.declarations.Pairwise fun D E => D.place.compare E.place = .lt

/-! ## Graphs on the way -/

theorem Passes.eq_of_union (h : Passes (topicsOf ss) g) : ∀ c ∈ g.ids, ∀ d ∈ g.ids,
    g.kind c = .dataTypeUnion → g.kind d = .dataTypeUnion → c = d := by
  intro c hc d hd hkc hkd
  exact ((h.oneUnion.kind c hc).1 hkc).trans ((h.oneUnion.kind d hd).1 hkd).symm

theorem Passes.orders_iff (h : Passes (topicsOf ss) g) (cs : List ClassId) :
    g.Orders cs ↔ cs = g.sortedIds := by
  rw [eq_sortedIds_iff h.sound.nodup_classIris h.eq_of_union]
  exact ⟨fun hcs => ⟨hcs.perm, hcs.strict⟩, fun hcs => ⟨hcs.1, hcs.2⟩⟩

/-! ## Declarations -/

theorem passes_of_compile (h : compile o ss = .ok r) : Passes (topicsOf ss) r.graph := by
  obtain ⟨_, b, hb, rfl⟩ := compile_eq_ok_iff.1 h
  exact passes_of_assemble hb

theorem ordered_of_compile (h : compile o ss = .ok r) : r.Ordered o := by
  have hpasses := passes_of_compile h
  have hnodup := hpasses.sound.nodup_classIris
  have hdeclarations := (compiled_of_compile h).2.1
  have hiris : r.declarations.map Declaration.iri = (r.graph.sortedIds.filter fun c =>
      o.includeDeprecated || !r.graph.isDeprecated c).map r.graph.iri := by
    rw [hdeclarations, declarationsOf, List.map_map]
    rfl
  have hmem : ∀ {c}, c ∈ r.graph.sortedIds ↔ c ∈ r.graph.ids := (sortedIds_perm _).mem_iff
  constructor
  case iris => exact hiris
  case declared =>
    intro c hc
    rw [hiris, List.mem_map]
    constructor
    · exact fun hvisible => ⟨c, List.mem_filter.2 ⟨hmem.2 hc, by simpa using hvisible⟩, rfl⟩
    · rintro ⟨d, hd, hdc⟩
      obtain ⟨hd, hvisible⟩ := List.mem_filter.1 hd
      rw [Graph.eq_of_iri_eq hnodup (hmem.1 hd) hc hdc] at hvisible
      simpa using hvisible
  case once =>
    rw [hiris]
    refine List.Nodup.map_on (fun c hc d hd hcd => ?_)
      (((sortedIds_perm _).nodup_iff.2 r.graph.nodup_ids).filter _)
    exact Graph.eq_of_iri_eq hnodup (hmem.1 (List.mem_of_mem_filter hc))
      (hmem.1 (List.mem_of_mem_filter hd)) hcd
  case strict =>
    rw [hdeclarations, declarationsOf, List.pairwise_map]
    exact (pairwise_sortedIds hnodup hpasses.eq_of_union).filter _

/-- **The order of declarations is an order, and there is no other.** The comparison of places is
    reflexive, goes one way or the other, and is transitive; two places count as equal only if both
    are unions, or if they are the same. In every graph that an assembly passes through, there is
    one way to put the classes in strict order: first the builtin ones, then the union, then all
    others. What is compiled declares the classes that are included, each once, in that order. -/
theorem declarations_ordered :
    ((∀ a : Place, a.compare a = .eq) ∧
      (∀ a b : Place, a.compare b = (b.compare a).swap) ∧
      (∀ a b c : Place, (a.compare b).isLE → (b.compare c).isLE → (a.compare c).isLE) ∧
      (∀ a b c : Place, ∀ x, a.compare b = x → b.compare c = x → a.compare c = x) ∧
      ∀ a b : Place, a.compare b = .eq ↔
        a.kind = .dataTypeUnion ∧ b.kind = .dataTypeUnion ∨
          a.kind = b.kind ∧ a.name = b.name ∧ a.iri = b.iri) ∧
    (∀ ss g, Passes (topicsOf ss) g → (∀ cs, g.Orders cs ↔ cs = g.sortedIds) ∧
      ∃ before after, g.sortedIds = before ++ unionId :: after ∧
        (∀ c ∈ before, g.kind c = .builtin) ∧ g.kind unionId = .dataTypeUnion ∧
        ∀ c ∈ after, g.kind c = .ordinary) ∧
    ∀ o ss r, compile o ss = .ok r → Passes (topicsOf ss) r.graph ∧ r.Ordered o := by
  refine ⟨⟨fun a => Std.ReflCmp.compare_self, fun a b => Std.OrientedCmp.eq_swap,
    fun a b c => Std.TransCmp.isLE_trans, fun a b c x => ?_, fun a b => ?_⟩, fun ss g hg => ?_,
    fun o ss r h => ⟨passes_of_compile h, ordered_of_compile h⟩⟩
  · rintro rfl hbc
    cases hab : a.compare b with
    | lt => exact Std.TransCmp.lt_trans hab (hbc.trans hab)
    | eq => exact Std.TransCmp.eq_trans hab (hbc.trans hab)
    | gt => exact Std.TransCmp.gt_trans hab (hbc.trans hab)
  · rw [Place.compare_eq_eq_iff]
    constructor
    · rintro ⟨hkind, hunion | hsame⟩
      · exact Or.inl ⟨hunion, hkind.symm.trans hunion⟩
      · exact Or.inr ⟨hkind, hsame⟩
    · rintro (⟨ha, hb⟩ | ⟨hkind, hsame⟩)
      · exact ⟨ha.trans hb.symm, Or.inl ha⟩
      · exact ⟨hkind, Or.inr hsame⟩
  · have hunion := hg.oneUnion.union.1
    have hkind := (hg.oneUnion.kind _ hunion).2 rfl
    obtain ⟨before, after, hsplit, hbefore, hafter⟩ :=
      sortedIds_split hg.sound.nodup_classIris hg.eq_of_union hunion hkind
    exact ⟨hg.orders_iff, before, after, hsplit, hbefore, hkind, hafter⟩

/-- Two classes that differ in nothing but their namespace, one more data type, and `Gadget`, which
    is superseded. -/
def widgetsStatements : List Statement :=
  let term := Edition.https.term
  [{ subject := ⟨"https://b.example/Widget"⟩, predicate := rdfType, object := .entity rdfsClass },
   { subject := ⟨"https://a.example/Widget"⟩, predicate := rdfType, object := .entity rdfsClass },
   { subject := term "Gadget", predicate := rdfType, object := .entity rdfsClass },
   { subject := term "Gadget", predicate := term "supersededBy",
     object := .entity ⟨"https://a.example/Widget"⟩ },
   { subject := term "Amount", predicate := rdfType, object := .entity (term "DataType") }]

/-- The classes have these numbers in the order in which they were added. -/
theorem declarations_ordered_widgetsStatements :
    ∃ r, compile {} widgetsStatements = .ok r ∧
      r.graph.sortedIds = [10, 2, 3, 4, 1, 0, 5, 6, 9, 8, 7] ∧
      (∀ cs, r.graph.Orders cs → cs = [10, 2, 3, 4, 1, 0, 5, 6, 9, 8, 7]) ∧
      r.declarations.map (fun D => D.iri.text) =
        ["https://schema.org/Amount", "https://schema.org/Boolean", "https://schema.org/Date",
         "https://schema.org/DateTime", "https://schema.org/Number", "https://schema.org/Text",
         "https://schema.org/Time", "https://schema.org/DataType", "https://a.example/Widget",
         "https://b.example/Widget"] ∧
      r.Ordered {} ∧
      (r.graph.place 10).compare (r.graph.place 6) = .lt ∧
      ((r.graph.place 10).compare (r.graph.place 7)).isLE := by
  obtain ⟨⟨_, _, htrans, hsame, _⟩, hgraphs, hcompiled⟩ := declarations_ordered
  have hok : (compile {} widgetsStatements).isOk = true := by decide +kernel
  obtain ⟨r, hr⟩ := isOk_iff.1 hok
  obtain ⟨hgraph, hdeclarations, _⟩ := compiled_of_compile hr
  obtain ⟨hpasses, hordered⟩ := hcompiled _ _ _ hr
  have hids : r.graph.sortedIds = [10, 2, 3, 4, 1, 0, 5, 6, 9, 8, 7] := by
    rw [hgraph]
    decide +kernel
  have hiris : r.declarations.map (fun D => D.iri.text) =
      ["https://schema.org/Amount", "https://schema.org/Boolean", "https://schema.org/Date",
       "https://schema.org/DateTime", "https://schema.org/Number", "https://schema.org/Text",
       "https://schema.org/Time", "https://schema.org/DataType", "https://a.example/Widget",
       "https://b.example/Widget"] := by
    rw [hdeclarations, hgraph]
    decide +kernel
  have hunion : (r.graph.place 10).compare (r.graph.place 0) = .lt ∧
      (r.graph.place 0).compare (r.graph.place 6) = .lt ∧
        ((r.graph.place 6).compare (r.graph.place 7)).isLE := by
    rw [hgraph]
    decide +kernel
  have hbuiltin := hsame _ _ _ _ hunion.1 hunion.2.1
  have hle : ((r.graph.place 10).compare (r.graph.place 6)).isLE :=
    Ordering.isLE_of_eq_lt hbuiltin
  exact ⟨r, hr, hids, fun cs hcs => (((hgraphs _ _ hpasses).1 cs).1 hcs).trans hids, hiris,
    hordered, hbuiltin, htrans _ _ _ hle hunion.2.2⟩

end Ontotype

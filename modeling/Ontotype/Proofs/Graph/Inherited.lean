import Ontotype.Proofs.Graph.NodeTypes

set_option autoImplicit false

/-! # What comes down from the classes above

A class is classified if it is declared to be a class, or one above it is, and it is another name
of every type that it or one above it is another name of. Both go through superclasses that run in
circles (`validate_exact`, `aliases_exact`). The first is settled by a search that ends at a class
with a declaration. For the second, a search expands all that is above, in whatever order; what it
gathers is sorted, and of neighbours that are the same one is kept. -/

namespace Ontotype

variable {g : Graph} {c : ClassId}

namespace Graph

/-! ## Classification -/

/-- A way up leads to a class that is declared to be one. -/
def ReachesMark (g : Graph) (c : ClassId) : Prop :=
  ∃ a, g.Above c a ∧ (g.entry a).marked = true

theorem isClassified_eq_false_iff (hg : g.InRange) (hc : c ∈ g.ids) :
    g.isClassified c = false ↔ ¬ g.ReachesMark c := by
  rw [← Bool.not_eq_true]
  exact not_congr (isClassified_iff hg hc)

/-- Of the classes from which no way leads to a declaration, the first is reported. -/
theorem validate_eq_error_iff_reachesMark (hg : g.InRange) {e : CompileError} :
    g.validate = .error e ↔ ∃ c ∈ g.ids, e = .unclassified (g.iri c) ∧
      ¬ g.ReachesMark c ∧ ∀ d < c, g.ReachesMark d := by
  rw [validate_eq_error_iff_least]
  refine exists_congr fun c => and_congr_right fun hc => and_congr_right fun _ =>
    and_congr (isClassified_eq_false_iff hg hc) (forall₂_congr fun d hd => ?_)
  exact isClassified_iff hg (mem_ids.2 (Nat.lt_trans hd (mem_ids.1 hc)))

/-! ## Names of types -/

/-- The superclasses of a graph may be held in another order. -/
theorem above_of_perm {l : Link} (h : ∀ a, (l.targets a).Perm (g.parents a)) :
    { g with superclass := l }.Above = g.Above := by
  have hbelow : { g with superclass := l }.Below = g.Below := by
    funext a b
    exact propext (h a).mem_iff
  rw [Above, Above, hbelow]

theorem InRange.of_perm (hg : g.InRange) {l : Link}
    (h : ∀ a, (l.targets a).Perm (g.parents a)) : { g with superclass := l }.InRange :=
  { hg with
    superclass := fun p hp => hg.mem_ids_of_below ((h p.1).mem_iff.1 (Link.mem_targets.2 hp)) }

/-- The order of superclasses does not show in what a class is another name of. -/
theorem aliases_of_perm (hg : g.InRange) (hc : c ∈ g.ids) {l : Link}
    (h : ∀ a, (l.targets a).Perm (g.parents a)) :
    { g with superclass := l }.aliases c = g.aliases c := by
  refine TypeRef.eq_sortedSet (TypeRef.pairwise_sortedSet _) fun t => ?_
  rw [mem_aliases (hg.of_perm h) hc, above_of_perm h, List.mem_flatMap]
  exact exists_congr fun a => and_congr_left fun _ => (mem_ancestors hg hc a).symm

end Graph

/-- **Which graphs are valid.** A class is classified exactly if a way up leads from it to a class
    that is declared to be one; the search for such a class comes to the same. A graph is valid if
    that is so of all its classes. If not, the report names the first of those it is not so of. -/
theorem validate_exact (hg : g.InRange) :
    (∀ c ∈ g.ids, (g.isClassified c = true ↔ g.ReachesMark c) ∧
      ∀ budget, g.size < budget →
        ∃ es, g.markSearch.run budget [] [] c = some (g.isClassified c, es)) ∧
    (g.validate = .ok () ↔ ∀ c ∈ g.ids, g.ReachesMark c) ∧
    ∀ e, g.validate = .error e ↔ ∃ c ∈ g.ids, e = .unclassified (g.iri c) ∧
      ¬ g.ReachesMark c ∧ ∀ d < c, g.ReachesMark d := by
  refine ⟨fun c hc => ⟨Graph.isClassified_iff hg hc, fun budget hbudget => ?_⟩, ?_,
    fun e => Graph.validate_eq_error_iff_reachesMark hg⟩
  · obtain ⟨es, hrun, _⟩ := Graph.run_markSearch hg hbudget hc
    exact ⟨es, hrun⟩
  · rw [Graph.validate_eq_ok_iff]
    exact forall₂_congr fun c hc => Graph.isClassified_iff hg hc

/-- `Code` and `Label` are below each other, and a way leads from both to `Text`. `Echo` is below
    itself alone. -/
theorem validate_exact_codesGraph :
    codesGraph.validate = .error (.unclassified ⟨"https://schema.org/Echo"⟩) ∧
    ¬ codesGraph.ReachesMark 4 ∧ (∀ c < 4, codesGraph.ReachesMark c) ∧
    ∃ es, codesGraph.markSearch.run 6 [] [] 1 = some (true, es) := by
  have hg : codesGraph.InRange := ⟨by decide, by decide, by decide, by decide, by decide, by decide⟩
  obtain ⟨hclassified, _, hreport⟩ := validate_exact hg
  have herror : codesGraph.validate = .error (.unclassified ⟨"https://schema.org/Echo"⟩) := by
    decide
  obtain ⟨c, hc, _, hnot, hleast⟩ := (hreport _).1 herror
  have hfour : c = 4 := by
    refine Nat.le_antisymm (Nat.le_of_lt_succ (Graph.mem_ids.1 hc)) (Nat.le_of_not_lt fun hlt => ?_)
    have hall : ∀ d < 4, codesGraph.isClassified d = true := by decide
    exact hnot (((hclassified c hc).1).1 (hall c hlt))
  subst hfour
  exact ⟨herror, hnot, hleast, (hclassified 1 (by decide)).2 6 (by decide)⟩

/-- **What a class is another name of.** The types come in the strict order of their keys, so none
    comes twice. They are exactly those that the class, or one above it, is another name of by
    itself, whatever the order of superclasses. To gather them along a search, sort them, and drop
    repetitions of neighbours, comes to the same. -/
theorem aliases_exact (hg : g.InRange) :
    ∀ c ∈ g.ids,
      ((g.aliases c).Pairwise fun s t => s.key < t.key) ∧ (g.aliases c).Nodup ∧
      (∀ t, t ∈ g.aliases c ↔ ∃ a, g.Above c a ∧ t ∈ (g.entry a).aliases) ∧
      (∀ budget, g.size < budget → ∃ es, g.fullSearch.run budget [] [] c = some (false, es) ∧
        TypeRef.collapsed ((expanded es).flatMap fun a => (g.entry a).aliases) = g.aliases c) ∧
      ∀ l : Link, (∀ a, (l.targets a).Perm (g.parents a)) →
        { g with superclass := l }.aliases c = g.aliases c := by
  intro c hc
  have hsorted : (g.aliases c).Pairwise fun s t => s.key < t.key := TypeRef.pairwise_sortedSet _
  refine ⟨hsorted, TypeRef.nodup_of_pairwise_lt hsorted, Graph.mem_aliases hg hc,
    fun budget hbudget => ?_, fun l hl => Graph.aliases_of_perm hg hc hl⟩
  obtain ⟨es, hrun, _, hgathered⟩ := Graph.run_fullSearch hg hbudget hc
  exact ⟨es, hrun, (TypeRef.collapsed_eq_sortedSet _).trans hgathered⟩

/-- `Text` and `Number` are other names of primitive types. `Amount` and `Total` are below each
    other; `Amount` is below `Quantity`, which is below `Number` and `Text`, and `Total` is below
    `Text`. -/
def amountsGraph : Graph :=
  { classes := ClassEntry.builtin ⟨"https://schema.org/Text"⟩ (.primitive .string) ::
      ClassEntry.builtin ⟨"https://schema.org/Number"⟩ (.primitive .number) ::
      ["Quantity", "Amount", "Total"].map fun name =>
        .ofKind ⟨"https://schema.org/" ++ name⟩ .ordinary
    superclass :=
      [(2, 0), (2, 1), (3, 2), (3, 4), (4, 3), (4, 0)].foldl (fun l p => l.add p.1 p.2) .empty }

theorem aliases_exact_amountsGraph :
    amountsGraph.aliases 4 = [.primitive .number, .primitive .string] ∧
    (∃ a, amountsGraph.Above 4 a ∧ .primitive .number ∈ (amountsGraph.entry a).aliases) ∧
    (∃ es, amountsGraph.fullSearch.run 6 [] [] 4 = some (false, es) ∧
      TypeRef.collapsed ((expanded es).flatMap fun a => (amountsGraph.entry a).aliases) =
        [.primitive .number, .primitive .string]) ∧
    ∀ l : Link, l.pairs = amountsGraph.superclass.pairs.reverse →
      { amountsGraph with superclass := l }.aliases 4 =
        [.primitive .number, .primitive .string] := by
  have hg : amountsGraph.InRange :=
    ⟨by decide, by decide, by decide, by decide, by decide, by decide⟩
  obtain ⟨_, _, hmem, hsearch, hperm⟩ := aliases_exact hg 4 (by decide)
  have hvalue : amountsGraph.aliases 4 = [.primitive .number, .primitive .string] := by decide
  rw [hvalue] at hmem hsearch hperm
  refine ⟨hvalue, (hmem _).1 (by decide), hsearch 6 (by decide), fun l hl => hperm l fun a => ?_⟩
  have hpairs : l.pairs.Perm amountsGraph.superclass.pairs := hl ▸ List.reverse_perm _
  exact (hpairs.filter _).map _

end Ontotype

import Ontotype.Proofs.Graph.Reach
import Ontotype.Proofs.Sorted

set_option autoImplicit false

/-! # Searches that stop early

What a class inherits is read off everything that a walk sees. It is settled sooner by a search:
depth first, passing over what it has expanded before, and stopping as soon as it comes to what it
looks for. A search nests as deep as it has to, so it is run within a budget, and has no result if
the budget runs out. Of each expansion it records which other ones are under way.

Neither the budget nor the order of the visits shows in the result (`Search.run_spec`,
`Search.Visits.finds_iff`): with a budget greater than the number of things, a search comes to a
result, expands nothing twice, let alone within itself, and finds something exactly if a way leads
there. The reason is that it ends at once when it finds something. So a search that is still going
on has found nothing in what it has expanded, and may pass over it. -/

namespace Ontotype

variable {n : Nat}

/-! ## Expansions -/

/-- The things next to `subject` are about to be visited. At that time the things of `within` are
    being expanded, the latest first. -/
structure Expansion where
  subject : Nat
  within : List Nat
  deriving DecidableEq, Repr

/-- The things that have been expanded. -/
def expanded (es : List Expansion) : List Nat := es.map Expansion.subject

/-- No thing is expanded while an expansion of it is under way. -/
def Nested (es : List Expansion) : Prop := ∀ e ∈ es, (e.subject :: e.within).Nodup

@[simp] theorem expanded_append_singleton (es : List Expansion) (e : Expansion) :
    expanded (es ++ [e]) = expanded es ++ [e.subject] := by
  simp [expanded]

/-- What is recorded while the things of `path` are being expanded, if nothing is expanded twice. -/
structure Tidy (path : List Nat) (es : List Expansion) : Prop where
  path_subset : path ⊆ expanded es
  once : (expanded es).Nodup
  nested : Nested es

theorem Nested.append {es : List Expansion} {c : Nat} {path : List Nat} (h : Nested es)
    (hpath : (c :: path).Nodup) : Nested (es ++ [⟨c, path⟩]) := by
  intro e he
  rcases List.mem_append.1 he with he | he
  · exact h e he
  · rw [List.mem_singleton.1 he]
    exact hpath

namespace Tidy

variable {path : List Nat} {es : List Expansion} {c : Nat}

theorem nil : Tidy [] [] where
  path_subset := List.Subset.refl []
  once := List.nodup_nil
  nested _ he := absurd he List.not_mem_nil

theorem expand (h : Tidy path es) (hpath : path.Nodup) (hnew : c ∉ expanded es) :
    Tidy (c :: path) (es ++ [⟨c, path⟩]) where
  path_subset := by
      rw [expanded_append_singleton]
      refine List.cons_subset.2 ⟨List.mem_append_right _ (List.mem_singleton_self c), ?_⟩
      exact fun a ha => List.mem_append_left _ (h.path_subset ha)
  once := by
      rw [expanded_append_singleton]
      exact (List.perm_append_singleton c _).nodup_iff.2 (List.nodup_cons.2 ⟨hnew, h.once⟩)
  nested := h.nested.append (List.nodup_cons.2 ⟨fun hc => hnew (h.path_subset hc), hpath⟩)

theorem tail (h : Tidy (c :: path) es) : Tidy path es :=
  { h with path_subset := List.Subset.trans (List.subset_cons_self c path) h.path_subset }

end Tidy

/-! ## Searching -/

/-- What a search looks for, and where. -/
structure Search where
  /-- The things that are visited when a thing is expanded. -/
  next : Nat → List Nat
  /-- What a visit comes to, if it does not take an expansion to tell. -/
  verdict : Nat → Option Bool
  /-- Whether the search ends with the expansion of a thing. -/
  wanted : Nat → Bool

/-- Visits one thing after the other until a visit finds something. -/
def visitUntil (visit : List Expansion → Nat → Option (Bool × List Expansion)) :
    List Expansion → List Nat → Option (Bool × List Expansion)
  | es, [] => some (false, es)
  | es, c :: cs =>
    match visit es c with
    | some (false, es) => visitUntil visit es cs
    | result => result

/-- Visits `c` while the things of `path` are being expanded. There is no result if visits nest
    deeper than `budget`. -/
def Search.run (q : Search) :
    Nat → List Nat → List Expansion → Nat → Option (Bool × List Expansion)
  | 0, _, _, _ => none
  | budget + 1, path, es, c =>
    match q.verdict c with
    | some answer => some (answer, es)
    | none =>
      if c ∈ expanded es then some (false, es)
      else if q.wanted c then some (true, es ++ [⟨c, path⟩])
      else visitUntil (q.run budget (c :: path)) (es ++ [⟨c, path⟩]) (q.next c)

namespace Search

variable (q : Search)

/-- From `a` the search goes on to `b`. -/
def Leads (a b : Nat) : Prop := q.verdict a = none ∧ q.wanted a = false ∧ b ∈ q.next a

/-- At `a` the search ends. -/
def Ends (a : Nat) : Prop := q.verdict a = some true ∨ q.verdict a = none ∧ q.wanted a = true

/-- A way leads from `c` to where the search ends. -/
def Finds (c : Nat) : Prop := ∃ a, Relation.ReflTransGen q.Leads c a ∧ q.Ends a

/-- A visit to `a` comes to nothing when the things of `s` have been expanded. -/
def Cleared (s : List Nat) (a : Nat) : Prop :=
  q.verdict a = some false ∨ q.verdict a = none ∧ a ∈ s

/-- What comes of visits to the things of `cs`, if those of `s` have been expanded before and those
    of `t` are expanded then. When nothing is found, the visits leave nothing to be done about what
    they have expanded; this need not be so of what was expanded before, as some of that is still
    being expanded. -/
structure Visits (cs s t : List Nat) (answer : Bool) : Prop where
  subset : s ⊆ t
  reached : ∀ a ∈ t, a ∉ s → ∃ c ∈ cs, Relation.ReflTransGen q.Leads c a
  found : answer = true → ∃ c ∈ cs, q.Finds c
  missed : answer = false →
    (∀ a ∈ t, a ∉ s → q.wanted a = false ∧ ∀ b ∈ q.next a, q.Cleared t b) ∧
      ∀ c ∈ cs, q.Cleared t c

variable {q}

theorem Cleared.mono {s t : List Nat} {a : Nat} (h : q.Cleared s a) (hst : s ⊆ t) :
    q.Cleared t a :=
  h.imp_right fun h => ⟨h.1, hst h.2⟩

theorem Finds.of_ends {c : Nat} (h : q.Ends c) : q.Finds c := ⟨c, .refl, h⟩

theorem Finds.head {a b : Nat} (h : q.Leads a b) (hb : q.Finds b) : q.Finds a := by
  obtain ⟨c, hway, hends⟩ := hb
  exact ⟨c, hway.head h, hends⟩

namespace Visits

variable {c : Nat} {cs s t u : List Nat} {answer : Bool}

theorem nil : q.Visits [] s s false where
  subset := List.Subset.refl s
  reached _ ha hnew := absurd ha hnew
  found h := absurd h (by simp)
  missed _ := ⟨fun _ ha hnew => absurd ha hnew, by simp⟩

theorem of_verdict (h : q.verdict c = some answer) : q.Visits [c] s s answer where
  subset := List.Subset.refl s
  reached _ ha hnew := absurd ha hnew
  found htrue := ⟨c, List.mem_singleton_self c, .of_ends (Or.inl (htrue ▸ h))⟩
  missed hfalse := by
      refine ⟨fun _ ha hnew => absurd ha hnew, fun a ha => ?_⟩
      rw [List.mem_singleton.1 ha]
      exact Or.inl (hfalse ▸ h)

theorem of_mem (h : q.verdict c = none) (hc : c ∈ s) : q.Visits [c] s s false where
  subset := List.Subset.refl s
  reached _ ha hnew := absurd ha hnew
  found htrue := absurd htrue (by simp)
  missed _ := by
      refine ⟨fun _ ha hnew => absurd ha hnew, fun a ha => ?_⟩
      rw [List.mem_singleton.1 ha]
      exact Or.inr ⟨h, hc⟩

theorem of_wanted (h : q.verdict c = none) (hwanted : q.wanted c = true) :
    q.Visits [c] s (s ++ [c]) true where
  subset := List.subset_append_left s [c]
  reached a ha hnew := by
      rw [List.mem_singleton.1 ((List.mem_append.1 ha).resolve_left hnew)]
      exact ⟨c, List.mem_singleton_self c, .refl⟩
  found _ := ⟨c, List.mem_singleton_self c, .of_ends (Or.inr ⟨h, hwanted⟩)⟩
  missed hfalse := absurd hfalse (by simp)

/-- An expansion comes to what the visits to the things next to it come to. -/
theorem expand (h : q.verdict c = none) (hwanted : q.wanted c = false)
    (hv : q.Visits (q.next c) (s ++ [c]) t answer) : q.Visits [c] s t answer where
  subset := List.Subset.trans (List.subset_append_left s [c]) hv.subset
  reached a ha hnew := by
      refine ⟨c, List.mem_singleton_self c, ?_⟩
      by_cases hac : a = c
      · rw [hac]
      · have hnew' : a ∉ s ++ [c] := by simp [hnew, hac]
        obtain ⟨b, hb, hway⟩ := hv.reached a ha hnew'
        exact hway.head ⟨h, hwanted, hb⟩
  found htrue := by
      obtain ⟨b, hb, hfinds⟩ := hv.found htrue
      exact ⟨c, List.mem_singleton_self c, hfinds.head ⟨h, hwanted, hb⟩⟩
  missed hfalse := by
      obtain ⟨hclosed, hnext⟩ := hv.missed hfalse
      refine ⟨fun a ha hnew => ?_, fun a ha => ?_⟩
      · by_cases hac : a = c
        · subst hac
          exact ⟨hwanted, hnext⟩
        · exact hclosed a ha (by simp [hnew, hac])
      · rw [List.mem_singleton.1 ha]
        exact Or.inr ⟨h, hv.subset (List.mem_append_right s (List.mem_singleton_self c))⟩

theorem stop (h : q.Visits [c] s t true) : q.Visits (c :: cs) s t true where
  subset := h.subset
  reached a ha hnew := by
      obtain ⟨b, hb, hway⟩ := h.reached a ha hnew
      exact ⟨b, List.mem_singleton.1 hb ▸ List.mem_cons_self, hway⟩
  found htrue := by
      obtain ⟨b, hb, hfinds⟩ := h.found htrue
      exact ⟨b, List.mem_singleton.1 hb ▸ List.mem_cons_self, hfinds⟩
  missed hfalse := absurd hfalse (by simp)

/-- After a visit that finds nothing comes the next one. -/
theorem cons (h : q.Visits [c] s t false) (hrest : q.Visits cs t u answer) :
    q.Visits (c :: cs) s u answer where
  subset := List.Subset.trans h.subset hrest.subset
  reached a ha hnew := by
      by_cases hat : a ∈ t
      · obtain ⟨b, hb, hway⟩ := h.reached a hat hnew
        exact ⟨b, List.mem_singleton.1 hb ▸ List.mem_cons_self, hway⟩
      · obtain ⟨b, hb, hway⟩ := hrest.reached a ha hat
        exact ⟨b, List.mem_cons_of_mem c hb, hway⟩
  found htrue := by
      obtain ⟨b, hb, hfinds⟩ := hrest.found htrue
      exact ⟨b, List.mem_cons_of_mem c hb, hfinds⟩
  missed hfalse := by
      obtain ⟨hclosed, hc⟩ := h.missed rfl
      obtain ⟨hclosed', hcs⟩ := hrest.missed hfalse
      refine ⟨fun a ha hnew => ?_, fun a ha => ?_⟩
      · by_cases hat : a ∈ t
        · exact (hclosed a hat hnew).imp_right fun hnext b hb => (hnext b hb).mono hrest.subset
        · exact hclosed' a ha hat
      · rcases List.mem_cons.1 ha with rfl | ha
        · exact (hc a (List.mem_singleton_self a)).mono hrest.subset
        · exact hcs a ha

/-- A search that starts with nothing expanded, and finds nothing, clears all that it leads to. -/
theorem cleared_of_way (h : q.Visits [c] [] t false) {a : Nat}
    (hway : Relation.ReflTransGen q.Leads c a) : q.Cleared t a := by
  obtain ⟨hclosed, hc⟩ := h.missed rfl
  induction hway with
  | refl => exact hc c (List.mem_singleton_self c)
  | @tail b a _ hb ih =>
      -- the search leads on from `b`, so it had to be expanded
      have hmem : b ∈ t := by
        rcases ih with hfalse | hmem
        · exact absurd (hb.1.symm.trans hfalse) (by simp)
        · exact hmem.2
      exact (hclosed b hmem List.not_mem_nil).2 a hb.2.2

/-- A search finds something exactly if a way leads there. -/
theorem finds_iff (h : q.Visits [c] [] t answer) : answer = true ↔ q.Finds c := by
  cases answer with
  | true =>
      obtain ⟨b, hb, hfinds⟩ := h.found rfl
      exact iff_of_true rfl (List.mem_singleton.1 hb ▸ hfinds)
  | false =>
      refine iff_of_false (by simp) ?_
      rintro ⟨a, hway, hends⟩
      -- what the search ends at is neither without interest nor expanded in vain
      rcases h.cleared_of_way hway with hfalse | ⟨hnone, hmem⟩
      · rcases hends with htrue | ⟨hnone, _⟩
        · exact absurd (htrue.symm.trans hfalse) (by simp)
        · exact absurd (hnone.symm.trans hfalse) (by simp)
      · rcases hends with htrue | ⟨_, hwanted⟩
        · exact absurd (htrue.symm.trans hnone) (by simp)
        · rw [((h.missed rfl).1 a hmem List.not_mem_nil).1] at hwanted
          exact absurd hwanted (by simp)

end Visits

/-! ## Every run has a result -/

theorem visitUntil_spec {path : List Nat}
    {visit : List Expansion → Nat → Option (Bool × List Expansion)}
    (hvisit : ∀ es c, c < n → Tidy path es → ∃ answer es', visit es c = some (answer, es') ∧
      Tidy path es' ∧ q.Visits [c] (expanded es) (expanded es') answer) (cs : List Nat) :
    ∀ es, (∀ c ∈ cs, c < n) → Tidy path es →
      ∃ answer es', visitUntil visit es cs = some (answer, es') ∧ Tidy path es' ∧
        q.Visits cs (expanded es) (expanded es') answer := by
  induction cs with
  | nil => exact fun es _ hes => ⟨false, es, rfl, hes, .nil⟩
  | cons c cs ih =>
      intro es hcs hes
      obtain ⟨answer, es', hfirst, htidy, hv⟩ := hvisit es c (hcs c List.mem_cons_self) hes
      rw [visitUntil, hfirst]
      cases answer with
      | true => exact ⟨true, es', rfl, htidy, hv.stop⟩
      | false =>
          obtain ⟨answer, es'', hrest, htidy', hv'⟩ :=
            ih es' (fun x hx => hcs x (List.mem_cons_of_mem c hx)) htidy
          exact ⟨answer, es'', hrest, htidy', hv.cons hv'⟩

/-- A visit to what has been expanded comes to a result at once. -/
theorem run_of_mem {budget : Nat} {path : List Nat} {es : List Expansion} {c : Nat}
    (hes : Tidy path es) (hmem : c ∈ expanded es) :
    ∃ answer es', q.run (budget + 1) path es c = some (answer, es') ∧ Tidy path es' ∧
      q.Visits [c] (expanded es) (expanded es') answer := by
  rw [run]
  cases hverdict : q.verdict c with
  | some answer => exact ⟨answer, es, rfl, hes, .of_verdict hverdict⟩
  | none => exact ⟨false, es, if_pos hmem, hes, .of_mem hverdict hmem⟩

/-- A search that has room for one visit more than there are things to be expanded comes to a
    result. What is being expanded has been expanded, so a thing that is new is not on the path,
    and the path gets longer. -/
theorem run_spec (hnext : ∀ a < n, ∀ b ∈ q.next a, b < n) (budget : Nat) :
    ∀ path es c, c < n → Seen n budget path → Tidy path es →
      ∃ answer es', q.run (budget + 1) path es c = some (answer, es') ∧ Tidy path es' ∧
        q.Visits [c] (expanded es) (expanded es') answer := by
  induction budget with
  | zero =>
      intro path es c hc hpath hes
      -- everything is being expanded
      exact run_of_mem hes (hes.path_subset (hpath.mem_of_full hc))
  | succ budget ih =>
      intro path es c hc hpath hes
      by_cases hmem : c ∈ expanded es
      · exact run_of_mem hes hmem
      · rw [run]
        cases hverdict : q.verdict c with
        | some answer => exact ⟨answer, es, rfl, hes, .of_verdict hverdict⟩
        | none =>
            have hes' := hes.expand hpath.nodup hmem
            simp only [if_neg hmem]
            cases hwanted : q.wanted c with
            | true =>
                refine ⟨true, _, rfl, hes'.tail, ?_⟩
                rw [expanded_append_singleton]
                exact .of_wanted hverdict hwanted
            | false =>
                have hpath' := hpath.cons hc fun hmem' => hmem (hes.path_subset hmem')
                obtain ⟨answer, es', hrun, htidy, hv⟩ := visitUntil_spec
                  (fun es c hc hes => ih _ es c hc hpath' hes) (q.next c) _
                  (hnext c hc) hes'
                rw [expanded_append_singleton] at hv
                exact ⟨answer, es', hrun, htidy.tail, hv.expand hverdict hwanted⟩

end Search

/-! ## Searches through the class graph -/

namespace Graph

/-- The search for a class that is declared to be one. -/
def markSearch (g : Graph) : Search where
  next := g.parents
  verdict _ := none
  wanted c := (g.entry c).marked

/-- The search for what keeps a class from being a node type. It ends at a class that is not
    ordinary, and does not go on from a class with properties. -/
def valueSearch (g : Graph) : Search where
  next := g.parents
  verdict c :=
    if g.kind c ≠ .ordinary then some true
    else if g.bindingsOf c ≠ [] then some false
    else none
  wanted _ := false

/-- The search that ends nowhere, and so expands everything. -/
def fullSearch (g : Graph) : Search where
  next := g.parents
  verdict _ := none
  wanted _ := false

variable {g : Graph} {c : ClassId} {budget : Nat}

theorem exists_run {q : Search} (hnext : ∀ a ∈ g.ids, ∀ b ∈ q.next a, b ∈ g.ids)
    (hbudget : g.size < budget) (hc : c ∈ g.ids) :
    ∃ answer es, q.run budget [] [] c = some (answer, es) ∧ Tidy [] es ∧
      q.Visits [c] [] (expanded es) answer := by
  obtain ⟨budget, rfl⟩ := Nat.exists_eq_add_one_of_ne_zero (Nat.ne_zero_of_lt hbudget)
  simp only [mem_ids] at hnext hc
  exact Search.run_spec hnext budget [] [] c hc (.empty (Nat.le_of_lt_succ hbudget)) .nil

theorem finds_markSearch_iff : g.markSearch.Finds c ↔
    ∃ a, g.Above c a ∧ (g.entry a).marked = true := by
  constructor
  · rintro ⟨a, hway, hends⟩
    refine ⟨a, Relation.ReflTransGen.mono (fun _ _ h => h.2.2) _ _ hway, ?_⟩
    exact hends.elim (fun h => absurd h (by simp [markSearch])) And.right
  · rintro ⟨a, hway, hmarked⟩
    induction hway using Relation.ReflTransGen.head_induction_on with
    | refl => exact .of_ends (Or.inr ⟨rfl, hmarked⟩)
    | @head b d hb _ ih =>
        -- the search ends at the first class on the way that is marked
        cases hb' : (g.entry b).marked with
        | true => exact .of_ends (Or.inr ⟨rfl, hb'⟩)
        | false => exact ih.head ⟨rfl, hb', hb⟩

/-- The search for a class that is declared to be one tells whether a class is classified. -/
theorem run_markSearch (hg : g.InRange) (hbudget : g.size < budget) (hc : c ∈ g.ids) :
    ∃ es, g.markSearch.run budget [] [] c = some (g.isClassified c, es) ∧ Tidy [] es := by
  obtain ⟨answer, es, hrun, htidy, hv⟩ := exists_run (q := g.markSearch)
    (fun _ _ _ hb => (hg.mem_ids_of_below hb).2) hbudget hc
  have hanswer : answer = g.isClassified c := by
    rw [Bool.eq_iff_iff, hv.finds_iff, finds_markSearch_iff, isClassified_iff hg hc]
  exact ⟨es, hanswer ▸ hrun, htidy⟩

theorem valueSearch_verdict_eq_none_iff :
    g.valueSearch.verdict c = none ↔ g.kind c = .ordinary ∧ g.bindingsOf c = [] := by
  by_cases hkind : g.kind c = .ordinary <;> by_cases hbound : g.bindingsOf c = [] <;>
    simp [valueSearch, hkind, hbound]

theorem valueSearch_verdict_eq_true_iff :
    g.valueSearch.verdict c = some true ↔ g.kind c ≠ .ordinary := by
  by_cases hkind : g.kind c = .ordinary <;> by_cases hbound : g.bindingsOf c = [] <;>
    simp [valueSearch, hkind, hbound]

/-- Whatever the order that it visits superclasses in, the search for what keeps a class from being
    a node type tells whether the class is one. -/
theorem run_valueSearch (hg : g.InRange) {parents : ClassId → List ClassId}
    (hparents : ∀ c, (parents c).Perm (g.parents c)) (hbudget : g.size < budget) (hc : c ∈ g.ids) :
    ∃ es, { g.valueSearch with next := parents }.run budget [] [] c = some (!g.isNodeType c, es) ∧
      Tidy [] es := by
  obtain ⟨answer, es, hrun, htidy, hv⟩ := exists_run (q := { g.valueSearch with next := parents })
    (fun _ _ _ hb => (hg.mem_ids_of_below ((hparents _).mem_iff.1 hb)).2) hbudget hc
  have hleads : Search.Leads { g.valueSearch with next := parents } = g.DecidedBy := by
    funext a b
    refine propext ((and_congr valueSearch_verdict_eq_none_iff ?_).trans and_assoc)
    exact (and_iff_right rfl).trans (hparents a).mem_iff
  have hends : ∀ a, Search.Ends { g.valueSearch with next := parents } a ↔
      g.kind a ≠ .ordinary := fun a =>
    (or_iff_left fun h => absurd h.2 (by simp [valueSearch])).trans valueSearch_verdict_eq_true_iff
  have hanswer : answer = !g.isNodeType c := by
    rw [Bool.eq_iff_iff, hv.finds_iff, Bool.not_eq_true', ← Bool.not_eq_true, isNodeType_iff hg hc]
    unfold Search.Finds
    simp only [hleads, hends, not_forall, exists_prop, ne_eq]
  exact ⟨es, hanswer ▸ hrun, htidy⟩

/-- The search that ends nowhere expands a class and all classes above it, so it comes to all types
    that the class is another name of. -/
theorem run_fullSearch (hg : g.InRange) (hbudget : g.size < budget) (hc : c ∈ g.ids) :
    ∃ es, g.fullSearch.run budget [] [] c = some (false, es) ∧ Tidy [] es ∧
      TypeRef.sortedSet ((expanded es).flatMap fun a => (g.entry a).aliases) = g.aliases c := by
  obtain ⟨answer, es, hrun, htidy, hv⟩ := exists_run (q := g.fullSearch)
    (fun _ _ _ hb => (hg.mem_ids_of_below hb).2) hbudget hc
  have hleads : g.fullSearch.Leads = g.Below := by
    funext a b
    exact propext ((and_iff_right rfl).trans (and_iff_right rfl))
  have hanswer : answer = false := by
    rw [← Bool.not_eq_true, hv.finds_iff]
    rintro ⟨a, _, hends⟩
    exact hends.elim (by simp [fullSearch]) (by simp [fullSearch])
  subst hanswer
  have hmem : ∀ a, a ∈ expanded es ↔ g.Above c a := by
    intro a
    constructor
    · intro ha
      obtain ⟨b, hb, hway⟩ := hv.reached a ha List.not_mem_nil
      rw [List.mem_singleton.1 hb, hleads] at hway
      exact hway
    · intro ha
      rw [Above, ← hleads] at ha
      exact (hv.cleared_of_way ha).elim (fun h => absurd h (by simp [fullSearch])) And.right
  refine ⟨es, hrun, htidy, TypeRef.sortedSet_congr fun t => ?_⟩
  rw [List.mem_flatMap, List.mem_flatMap]
  exact exists_congr fun a => and_congr_left fun _ => (hmem a).trans (mem_ancestors hg hc a).symm

end Graph

end Ontotype

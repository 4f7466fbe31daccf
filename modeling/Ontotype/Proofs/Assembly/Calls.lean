import Ontotype.Proofs.Assembly.Edits

set_option autoImplicit false

/-! # Graphs that calls build

A graph is built by calls that start from the graph of nothing: classes are inserted, unions get
members, and the rest are edits. A run of calls is *allowed* if each call speaks only of numbers
that calls before it have returned. Whatever the order of the calls, and even if a class is put
below itself or a call is repeated, an allowed run leaves a sound graph (`Graph.Allows.sound`). Its
rows hold what the calls have added to them, each number once, in the order in which it was added
first (`Graph.row_calls_empty`), and numbers keep their meaning from then on
(`Graph.keeps_calls`). -/

namespace Ontotype

/-! ## Calls -/

/-- A change to a graph. -/
inductive Call where
  | insert (e : ClassEntry)
  | addUnionMember (union member : ClassId)
  | edit (e : Edit)
  deriving DecidableEq, Repr

/-- What a call does to a graph. -/
def Graph.call (g : Graph) : Call → Graph
  | .insert e => (g.insert e).1
  | .addUnionMember union member => g.addUnionMember union member
  | .edit e => g.edit e

/-- What a run of calls does to a graph. -/
def Graph.calls (g : Graph) (ks : List Call) : Graph := ks.foldl Graph.call g

/-- The numbers that a call speaks of are numbers of things in the graph. -/
def Call.Fits (g : Graph) : Call → Prop
  | .insert _ => True
  | .addUnionMember union member => union ∈ g.ids ∧ member ∈ g.ids
  | .edit e => e.Fits g

/-- Every call of the run fits the graph that it is applied to. -/
def Graph.Allows (g : Graph) : List Call → Prop
  | [] => True
  | k :: ks => k.Fits g ∧ (g.call k).Allows ks

instance (g : Graph) : DecidablePred (Edit.Fits g)
  | .commentClass c _ => inferInstanceAs (Decidable (c ∈ g.ids))
  | .addParent child parent => inferInstanceAs (Decidable (child ∈ g.ids ∧ parent ∈ g.ids))
  | .addSuccessor c successor => inferInstanceAs (Decidable (c ∈ g.ids ∧ successor ∈ g.ids))
  | .mark c => inferInstanceAs (Decidable (c ∈ g.ids))
  | .addProperty _ => inferInstanceAs (Decidable True)
  | .commentProperty p _ => inferInstanceAs (Decidable (p < g.properties.length))
  | .addRange p c => inferInstanceAs (Decidable (p < g.properties.length ∧ c ∈ g.ids))
  | .addPropertySuccessor p _ => inferInstanceAs (Decidable (p < g.properties.length))
  | .bind b => inferInstanceAs (Decidable (b.owner ∈ g.ids ∧ b.property < g.properties.length))
  | .addValue _ => inferInstanceAs (Decidable True)
  | .commentValue v _ => inferInstanceAs (Decidable (v < g.values.length))
  | .addMember c v => inferInstanceAs (Decidable (c ∈ g.ids ∧ v < g.values.length))
  | .report _ => inferInstanceAs (Decidable True)

instance (g : Graph) : DecidablePred (Call.Fits g)
  | .insert _ => inferInstanceAs (Decidable True)
  | .addUnionMember union member => inferInstanceAs (Decidable (union ∈ g.ids ∧ member ∈ g.ids))
  | .edit e => inferInstanceAs (Decidable (e.Fits g))

instance decidableAllows : ∀ g : Graph, DecidablePred g.Allows
  | _, [] => inferInstanceAs (Decidable True)
  | g, k :: ks =>
    have := decidableAllows (g.call k) ks
    inferInstanceAs (Decidable (k.Fits g ∧ (g.call k).Allows ks))

/-- The tables of a graph. -/
inductive Table where
  | classes
  | properties
  | values
  deriving DecidableEq, Repr

/-- The IRIs of what stands in a table, by number. -/
def Graph.irisIn (g : Graph) : Table → List Iri
  | .classes => g.classIris
  | .properties => g.propertyIris
  | .values => g.valueIris

/-- The number that a call returns, of a thing in one of the tables. -/
def Call.returned? (g : Graph) : Table → Call → Option Nat
  | .classes, .insert e => some (g.insert e).2
  | .properties, .edit (.addProperty iri) => some (g.addProperty iri).2
  | .values, .edit (.addValue iri) => some (g.addValue iri).2
  | _, _ => none

/-- The rows of a graph: what a class or an enumeration value is linked to. -/
inductive Row where
  | parents (c : ClassId)
  | children (c : ClassId)
  | successors (c : ClassId)
  | unionMembers (c : ClassId)
  | values (c : ClassId)
  | owners (v : ValueId)
  deriving DecidableEq, Repr

/-- What stands in a row. -/
def Graph.row (g : Graph) : Row → List Nat
  | .parents c => g.parents c
  | .children c => g.children c
  | .successors c => g.successors c
  | .unionMembers c => g.unionMembers c
  | .values c => g.valuesOf c
  | .owners v => g.ownersOf v

/-- What a call adds to a row, if it is not there yet. A link adds to the rows of both its ends. -/
def Call.adds? : Row → Call → Option Nat
  | .parents c, .edit (.addParent child parent) => if child = c then some parent else none
  | .children c, .edit (.addParent child parent) => if parent = c then some child else none
  | .successors c, .edit (.addSuccessor a successor) => if a = c then some successor else none
  | .unionMembers c, .addUnionMember union member => if union = c then some member else none
  | .values c, .edit (.addMember a v) => if a = c then some v else none
  | .owners v, .edit (.addMember c w) => if w = v then some c else none
  | _, _ => none

/-- The pair that a call adds to a link. -/
def Call.pair? (l : LinkKind) : Call → Option (Nat × Nat)
  | .insert _ => none
  | .addUnionMember union member => if l = .unionMember then some (union, member) else none
  | .edit e => e.pair? l

/-! ## Rows -/

/-- A number at the end of a row, unless it stands there already. -/
def pushUnique (row : List Nat) (n : Nat) : List Nat := if n ∈ row then row else row ++ [n]

theorem pushUnique_eraseDups (ns : List Nat) (n : Nat) :
    pushUnique ns.eraseDups n = (ns ++ [n]).eraseDups := by
  rw [pushUnique]
  by_cases h : n ∈ ns
  · rw [eraseDups_concat_of_mem h, if_pos (List.mem_eraseDups.2 h)]
  · rw [eraseDups_concat_of_not_mem h, if_neg fun hmem => h (List.mem_eraseDups.1 hmem)]

namespace Link

theorem targets_add (l : Link) (a b c : Nat) :
    (l.add a b).targets c = if a = c then pushUnique (l.targets c) b else l.targets c := by
  by_cases hac : a = c
  · subst hac
    rw [if_pos rfl, pushUnique, add]
    by_cases h : (a, b) ∈ l.pairs <;> simp [h, targets]
  · rw [if_neg hac, add]
    split
    · rfl
    · simp [targets, hac]

theorem sources_add (l : Link) (a b c : Nat) :
    (l.add a b).sources c = if b = c then pushUnique (l.sources c) a else l.sources c := by
  by_cases hbc : b = c
  · subst hbc
    rw [if_pos rfl, pushUnique, add]
    by_cases h : (a, b) ∈ l.pairs <;> simp [h, sources]
  · rw [if_neg hbc, add]
    split
    · rfl
    · simp [sources, hbc]

end Link

/-- The link that a row is read from. -/
def Row.kind : Row → LinkKind
  | .parents _ | .children _ => .superclass
  | .successors _ => .successor
  | .unionMembers _ => .unionMember
  | .values _ | .owners _ => .membership

/-- The row of a link: the numbers on the other side of its pairs. -/
def Row.entries (l : Link) : Row → List Nat
  | .parents c | .successors c | .unionMembers c | .values c => l.targets c
  | .children c | .owners c => l.sources c

/-- What a pair of the link has for the row. -/
def Row.entry? (p : Nat × Nat) : Row → Option Nat
  | .parents c | .successors c | .unionMembers c | .values c => if p.1 = c then some p.2 else none
  | .children c | .owners c => if p.2 = c then some p.1 else none

theorem Row.entries_add (r : Row) (l : Link) (p : Nat × Nat) : r.entries (l.add p.1 p.2) =
    ((r.entry? p).map (pushUnique (r.entries l))).getD (r.entries l) := by
  have hite : ∀ (h : Prop) [Decidable h] (n : Nat) (ns : List Nat),
      (if h then pushUnique ns n else ns) =
        ((if h then some n else none).map (pushUnique ns)).getD ns := by
    intro h _ n ns
    split <;> rfl
  cases r with
  | parents c | successors c | unionMembers c | values c =>
      exact (l.targets_add p.1 p.2 c).trans (hite _ _ _)
  | children c | owners c => exact (l.sources_add p.1 p.2 c).trans (hite _ _ _)

/-- A call has for a row what the pair has that it adds to the link. -/
theorem Call.adds?_eq (k : Call) (r : Row) : k.adds? r = (k.pair? r.kind).bind r.entry? := by
  cases k with
  | insert e => cases r <;> rfl
  | addUnionMember union member => cases r <;> rfl
  | edit e => cases r <;> cases e <;> rfl

namespace Graph

variable {g : Graph} {k : Call} {ks ks' : List Call}

@[simp] theorem calls_nil (g : Graph) : g.calls [] = g := rfl

@[simp] theorem calls_cons (g : Graph) (k : Call) (ks : List Call) :
    g.calls (k :: ks) = (g.call k).calls ks := rfl

theorem calls_append (g : Graph) (ks ks' : List Call) :
    g.calls (ks ++ ks') = (g.calls ks).calls ks' :=
  List.foldl_append

theorem allows_append (ks ks' : List Call) :
    ∀ g : Graph, g.Allows (ks ++ ks') ↔ g.Allows ks ∧ (g.calls ks).Allows ks' := by
  induction ks with
  | nil => exact fun g => iff_of_eq (true_and _).symm
  | cons k ks ih =>
      intro g
      rw [List.cons_append, Allows, ih, Allows, calls_cons, and_assoc]

/-- Edits are calls. -/
theorem calls_map_edit (es : List Edit) : ∀ g : Graph, g.calls (es.map .edit) = g.edits es := by
  induction es with
  | nil => exact fun g => rfl
  | cons e es ih => exact fun g => ih (g.edit e)

theorem allows_map_edit (es : List Edit) :
    ∀ g : Graph, g.Allows (es.map .edit) ↔ g.Accepts es := by
  induction es with
  | nil => exact fun g => Iff.rfl
  | cons e es ih => exact fun g => and_congr_right fun _ => ih (g.edit e)

/-- What every fitting call preserves, an allowed run preserves. -/
theorem Allows.preserves {P : Graph → Prop} (hstep : ∀ g k, k.Fits g → P g → P (g.call k))
    (h : g.Allows ks) (hg : P g) : P (g.calls ks) := by
  induction ks generalizing g with
  | nil => exact hg
  | cons k ks ih => exact ih h.2 (hstep g k h.1 hg)

/-! ## What a call does to the links -/

theorem insert_eq (g : Graph) (e : ClassEntry) : (g.insert e).1 =
    { g with classes := if e.iri ∈ g.classIris then g.classes else g.classes ++ [e] } := by
  rw [insert]
  cases h : g.find? e.iri with
  | some c => rw [if_pos (isSome_find?_iff.1 (h ▸ rfl))]
  | none => rw [if_neg (find?_eq_none_iff.1 h)]

/-- A link gets the pair that a call has for it, and is left alone by all other calls. -/
theorem link_call (g : Graph) (k : Call) (l : LinkKind) : (g.call k).link l =
    match k.pair? l with
    | some (a, b) => (g.link l).add a b
    | none => g.link l := by
  cases k with
  | insert e =>
      rw [call, insert_eq]
      cases l <;> rfl
  | addUnionMember union member => cases l <;> rfl
  | edit e => exact link_edit g e l

theorem row_eq (g : Graph) (r : Row) : g.row r = r.entries (g.link r.kind) := by
  cases r <;> rfl

/-- A call adds to a row what it has for it, unless that is there. -/
theorem row_call (g : Graph) (k : Call) (r : Row) :
    (g.call k).row r = ((k.adds? r).map (pushUnique (g.row r))).getD (g.row r) := by
  rw [row_eq, row_eq, link_call, Call.adds?_eq]
  cases k.pair? r.kind with
  | none => rfl
  | some p => exact r.entries_add (g.link r.kind) p

/-- A row that holds the numbers `ns`, each once, holds what calls add to it besides. -/
theorem row_calls {r : Row} (ks : List Call) : ∀ {g : Graph} {ns : List Nat},
    g.row r = ns.eraseDups → (g.calls ks).row r = (ns ++ ks.filterMap (·.adds? r)).eraseDups := by
  induction ks with
  | nil =>
      intro g ns h
      rw [calls_nil, List.filterMap_nil, List.append_nil, h]
  | cons k ks ih =>
      intro g ns h
      rw [calls_cons, List.filterMap_cons]
      cases hk : k.adds? r with
      | none => exact ih ((row_call g k r).trans (by rw [hk]; exact h))
      | some n =>
          have hnext : (g.call k).row r = (ns ++ [n]).eraseDups := by
            rw [row_call, hk, h, ← pushUnique_eraseDups]
            rfl
          rw [ih hnext, List.append_assoc, List.singleton_append]

theorem row_calls_empty (ks : List Call) (r : Row) :
    (empty.calls ks).row r = (ks.filterMap (·.adds? r)).eraseDups := by
  have hempty : empty.row r = ([] : List Nat).eraseDups := by cases r <;> rfl
  rw [row_calls ks hempty, List.nil_append]

/-! ## Numbers keep their meaning -/

theorem classIris_insert (g : Graph) (e : ClassEntry) : (g.insert e).1.classIris =
    if e.iri ∈ g.classIris then g.classIris else g.classIris ++ [e.iri] := by
  rw [insert_eq, classIris]
  dsimp only
  split
  · rfl
  · rw [List.map_append]
    rfl

/-- What stands in a table keeps its place. -/
theorem irisIn_call (g : Graph) (k : Call) (t : Table) : g.irisIn t <+: (g.call k).irisIn t := by
  cases k with
  | insert e =>
      cases t with
      | classes =>
          rw [irisIn, irisIn, call, classIris_insert]
          split
          · exact List.prefix_rfl
          · exact List.prefix_append _ _
      | _ => rw [call, insert_eq]; exact List.prefix_rfl
  | addUnionMember union member => cases t <;> exact List.prefix_rfl
  | edit e =>
      cases t with
      | classes =>
          show g.classIris <+: (g.edit e).classIris
          exact (classIris_edit g e).symm ▸ List.prefix_rfl
      | properties =>
          rw [irisIn, irisIn, call, propertyIris_edit]
          exact List.prefix_append _ _
      | values =>
          rw [irisIn, irisIn, call, valueIris_edit]
          exact List.prefix_append _ _

theorem irisIn_calls (t : Table) (ks : List Call) :
    ∀ g : Graph, g.irisIn t <+: (g.calls ks).irisIn t := by
  induction ks with
  | nil => exact fun g => List.prefix_rfl
  | cons k ks ih => exact fun g => (irisIn_call g k t).trans (ih (g.call k))

theorem nodup_classIris_call (h : g.classIris.Nodup) (k : Call) : (g.call k).classIris.Nodup := by
  cases k with
  | insert e =>
      rw [call, classIris_insert]
      split
      · exact h
      · next hnew => exact List.nodup_append_comm.1 (List.nodup_cons.2 ⟨hnew, h⟩)
  | addUnionMember union member => exact h
  | edit e => exact (classIris_edit g e).symm ▸ h

theorem nodup_classIris_calls (ks : List Call) :
    ∀ {g : Graph}, g.classIris.Nodup → (g.calls ks).classIris.Nodup := by
  induction ks with
  | nil => exact fun h => h
  | cons k ks ih => exact fun h => ih (nodup_classIris_call h k)

/-! ## Numbers that are returned -/

/-- The number that an insertion returns is that of a class. -/
theorem snd_insert_mem_ids (g : Graph) (e : ClassEntry) : (g.insert e).2 ∈ (g.insert e).1.ids :=
  mem_ids_of_find? (find?_insert_self g e)

/-- The numbers of a table after a call are those before it, and the one that it returns. -/
theorem lt_length_call_iff (g : Graph) (k : Call) (t : Table) (n : Nat) :
    n < ((g.call k).irisIn t).length ↔
      n < (g.irisIn t).length ∨ k.returned? g t = some n := by
  have hsame : ∀ {k : Call}, (g.call k).irisIn t = g.irisIn t → k.returned? g t = none →
      (n < ((g.call k).irisIn t).length ↔ n < (g.irisIn t).length ∨ k.returned? g t = some n) := by
    intro k hiris hnone
    rw [hiris, hnone]
    simp
  cases k with
  | insert e =>
      cases t with
      | classes =>
          have hlt := snd_insert_mem_ids g e
          rw [mem_ids, size_eq, classIris_insert] at hlt
          rw [irisIn, irisIn, call, classIris_insert, Call.returned?, Option.some.injEq]
          by_cases hknown : e.iri ∈ g.classIris
          · rw [if_pos hknown] at hlt ⊢
            exact ⟨Or.inl, fun h => h.elim id fun h => h ▸ hlt⟩
          · have hreturned : (g.insert e).2 = g.classIris.length := by
              rw [insert, find?_eq_none_iff.2 hknown]
              exact size_eq g
            rw [if_neg hknown, hreturned, List.length_append, List.length_singleton,
              Nat.lt_succ_iff, Nat.le_iff_lt_or_eq, eq_comm (a := n)]
      | _ => exact hsame (by rw [call, insert_eq]; rfl) rfl
  | addUnionMember union member => exact hsame (by cases t <;> rfl) (by cases t <;> rfl)
  | edit e =>
      cases t with
      | classes => exact hsame (classIris_edit g e) (by cases e <;> rfl)
      | properties =>
          rw [irisIn, irisIn, call, propertyIris_edit]
          cases e with
          | addProperty iri =>
              have hreturned : Call.returned? g .properties (.edit (.addProperty iri)) =
                some g.properties.length := rfl
              simp only [hreturned, Edit.newProperty?, Option.toList_some, List.length_append,
                List.length_singleton, propertyIris, List.length_map, Option.some.injEq]
              omega
          | _ => simp [Edit.newProperty?, Call.returned?]
      | values =>
          rw [irisIn, irisIn, call, valueIris_edit]
          cases e with
          | addValue iri =>
              have hreturned : Call.returned? g .values (.edit (.addValue iri)) =
                some g.values.length := rfl
              simp only [hreturned, Edit.newValue?, Option.toList_some, List.length_append,
                List.length_singleton, valueIris, List.length_map, Option.some.injEq]
              omega
          | _ => simp [Edit.newValue?, Call.returned?]

/-- The numbers of a table are those that calls have returned. -/
theorem lt_length_calls_iff (t : Table) (n : Nat) (ks : List Call) :
    ∀ g : Graph, n < ((g.calls ks).irisIn t).length ↔ n < (g.irisIn t).length ∨
      ∃ before k after, ks = before ++ k :: after ∧
        k.returned? (g.calls before) t = some n := by
  induction ks with
  | nil =>
      intro g
      simp
  | cons k ks ih =>
      intro g
      rw [calls_cons, ih, lt_length_call_iff, or_assoc]
      refine or_congr_right ⟨?_, ?_⟩
      · rintro (hk | ⟨before, k', after, rfl, hk'⟩)
        · exact ⟨[], k, ks, rfl, hk⟩
        · exact ⟨k :: before, k', after, rfl, hk'⟩
      · rintro ⟨before, k', after, heq, hk'⟩
        cases before with
        | nil =>
            obtain ⟨rfl, rfl⟩ := List.cons.inj heq
            exact Or.inl hk'
        | cons b before =>
            obtain ⟨rfl, rfl⟩ := List.cons.inj heq
            exact Or.inr ⟨before, k', after, rfl, hk'⟩

/-! ## Numbers stay in range -/

theorem mem_ids_call (k : Call) {c : ClassId} (hc : c ∈ g.ids) : c ∈ (g.call k).ids := by
  rw [mem_ids, size_eq] at hc ⊢
  exact Nat.lt_of_lt_of_le hc (irisIn_call g k .classes).length_le

theorem InRange.call (h : g.InRange) (k : Call) (hk : k.Fits g) : (g.call k).InRange := by
  have hids : ∀ {c d}, c ∈ g.ids ∧ d ∈ g.ids → c ∈ (g.call k).ids ∧ d ∈ (g.call k).ids :=
    fun hcd => ⟨mem_ids_call k hcd.1, mem_ids_call k hcd.2⟩
  cases k with
  | insert e =>
      -- an insertion adds no link
      rw [Graph.call, insert_eq] at hids ⊢
      exact {
        superclass := fun l hl => hids (h.superclass l hl)
        successor := fun l hl => hids (h.successor l hl)
        unionMember := fun l hl => hids (h.unionMember l hl)
        range := fun p hp c hc => (hids ⟨h.range p hp c hc, h.range p hp c hc⟩).1
        binding := fun b hb =>
          ⟨(hids ⟨(h.binding b hb).1, (h.binding b hb).1⟩).1, (h.binding b hb).2⟩
        membership := fun l hl =>
          ⟨(hids ⟨(h.membership l hl).1, (h.membership l hl).1⟩).1, (h.membership l hl).2⟩ }
  | addUnionMember union member =>
      refine { h with unionMember := fun l hl => ?_ }
      rcases Link.mem_pairs_add.1 hl with hl | rfl
      · exact h.unionMember l hl
      · exact hk
  | edit e => exact h.edit e hk

theorem BoundOnce.call (h : g.BoundOnce) (k : Call) : (g.call k).BoundOnce := by
  cases k with
  | insert e =>
      rw [Graph.call, insert_eq]
      exact h
  | addUnionMember union member => exact h
  | edit e => exact h.edit e

/-! ## Sound graphs -/

/-- The tables of a graph and what links them are in step. That the two sides of a link agree, as
    `superclass` and `membership` say, holds of every graph, as both are read from one list of
    pairs; what ties each side to the calls that add to it is `BuiltBy.row`. -/
structure Sound (g : Graph) : Prop where
  /-- A class is found under its own IRI, and under no other. -/
  find : ∀ a c, g.find? a = some c ↔ c ∈ g.ids ∧ g.iri c = a
  nodup_classIris : g.classIris.Nodup
  inRange : g.InRange
  superclass : ∀ c p, p ∈ g.parents c ↔ c ∈ g.children p
  membership : ∀ c v, v ∈ g.valuesOf c ↔ c ∈ g.ownersOf v
  nodup_row : ∀ r, (g.row r).Nodup
  nodup_bindings : ∀ c, ((g.bindingsOf c).map Binding.property).Nodup

theorem inRange_empty : empty.InRange where
  superclass _ hl := absurd hl List.not_mem_nil
  successor _ hl := absurd hl List.not_mem_nil
  unionMember _ hl := absurd hl List.not_mem_nil
  range _ hp := absurd hp List.not_mem_nil
  binding _ hb := absurd hb List.not_mem_nil
  membership _ hl := absurd hl List.not_mem_nil

theorem BoundOnce.nodup_bindingsOf (h : g.BoundOnce) (c : ClassId) :
    ((g.bindingsOf c).map Binding.property).Nodup := by
  rw [List.nodup_iff_pairwise_ne, List.pairwise_map]
  refine (List.Pairwise.filter _ h).imp_of_mem fun {b b'} hb hb' honce hproperty => ?_
  have howner := of_decide_eq_true (List.mem_filter.1 hb).2
  have howner' := of_decide_eq_true (List.mem_filter.1 hb').2
  exact honce ⟨howner.trans howner'.symm, hproperty⟩

/-- Calls that are allowed build a sound graph. -/
theorem Allows.sound (h : empty.Allows ks) : (empty.calls ks).Sound := by
  have hrange : (empty.calls ks).InRange :=
    h.preserves (fun _ k hk hg => hg.call k hk) inRange_empty
  have honce : (empty.calls ks).BoundOnce :=
    h.preserves (fun _ k _ hg => hg.call k) List.Pairwise.nil
  have hnodup : (empty.calls ks).classIris.Nodup := nodup_classIris_calls ks List.nodup_nil
  exact {
    find := fun a c => find?_eq_some_iff hnodup
    nodup_classIris := hnodup
    inRange := hrange
    superclass := fun c p => mem_parents_iff_mem_children
    membership := fun c v => mem_valuesOf_iff_mem_ownersOf
    nodup_row := fun r => row_calls_empty ks r ▸ nodup_eraseDups _
    nodup_bindings := honce.nodup_bindingsOf }

/-! ## Later graphs -/

/-- What has a number in the graph has it in the graph `h` too. -/
structure Keeps (g h : Graph) : Prop where
  find : ∀ a c, g.find? a = some c → h.find? a = some c
  iri : ∀ t n, n < (g.irisIn t).length → (h.irisIn t)[n]? = (g.irisIn t)[n]?

/-- Numbers keep their meaning, whatever is called. -/
theorem keeps_calls (h : g.classIris.Nodup) (ks : List Call) : g.Keeps (g.calls ks) := by
  have hiri : ∀ t n, n < (g.irisIn t).length →
      ((g.calls ks).irisIn t)[n]? = (g.irisIn t)[n]? := by
    intro t n hn
    obtain ⟨rest, hrest⟩ := irisIn_calls t ks g
    rw [← hrest, List.getElem?_append_left hn]
  refine ⟨fun a c hc => ?_, hiri⟩
  obtain ⟨hids, rfl⟩ := (find?_eq_some_iff h).1 hc
  have hlt : c < (g.irisIn .classes).length := size_eq g ▸ mem_ids.1 hids
  refine (find?_eq_some_iff (nodup_classIris_calls ks h)).2 ⟨?_, ?_⟩
  · rw [mem_ids, size_eq]
    exact Nat.lt_of_lt_of_le hlt (irisIn_calls .classes ks g).length_le
  · rw [iri_eq, iri_eq]
    exact congrArg (·.getD default) (hiri .classes c hlt)

/-- The graph is what the calls have made of the graph of nothing. -/
structure BuiltBy (g : Graph) (ks : List Call) : Prop where
  sound : g.Sound
  /-- A row holds what calls have added to it, in the order in which they did so first. -/
  row : ∀ r, g.row r = (ks.filterMap (·.adds? r)).eraseDups
  /-- A number is in use if and only if a call has returned it. -/
  returned : ∀ t n, n < (g.irisIn t).length ↔ ∃ before k after, ks = before ++ k :: after ∧
    k.returned? (empty.calls before) t = some n
  keeps : ∀ later, g.Keeps (g.calls later)

theorem Allows.builtBy (h : empty.Allows ks) : (empty.calls ks).BuiltBy ks where
  sound := h.sound
  row := row_calls_empty ks
  returned t n := by
      have hnone : ¬ n < (empty.irisIn t).length := by cases t <;> exact Nat.not_lt_zero n
      rw [lt_length_calls_iff, or_iff_right hnone]
  keeps later := keeps_calls h.sound.nodup_classIris later

end Graph

end Ontotype

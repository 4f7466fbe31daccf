import Ontotype.Assembly.Edit
import Ontotype.Proofs.Graph.Tables

set_option autoImplicit false

/-! # What edits do to a graph

Edits only add. So what a graph says after a run of edits can be read off the graph before the run
and the list of edits, without regard to the states in between: a link is there if it was there or
if an edit adds it, a comment is the last one that an edit gives, a list is followed by what the
edits append to it. Each part of the graph has one lemma for a single edit, and its law for a run
follows from it by one of three inductions (`Accepts.or_of_step`, `Accepts.last_of_step`,
`Accepts.append_of_step`).

A run is *accepted* if the numbers in every edit are numbers of things that are there when the edit
is applied; accepted runs keep all numbers of the graph in range. -/

namespace Ontotype

/-! ## Edits and graphs -/

/-- What an edit does to the graph. -/
def Graph.edit (g : Graph) : Edit → Graph
  | .commentClass c text => g.setComment c text
  | .addParent child parent => g.addParent child parent
  | .addSuccessor c successor => g.addSuccessor c successor
  | .mark c => g.setMarked c true
  | .addProperty iri => (g.addProperty iri).1
  | .commentProperty p text => g.setPropertyComment p text
  | .addRange p c => if c ∈ (g.property p).ranges then g else g.addRange p c
  | .addPropertySuccessor p t => g.addPropertySuccessor p t
  | .bind b => g.bind b
  | .addValue iri => (g.addValue iri).1
  | .commentValue v text => g.setValueComment v text
  | .addMember c v => g.addMember c v
  | .report _ => g

/-- What a run of edits does to the graph. -/
def Graph.edits (g : Graph) (es : List Edit) : Graph := es.foldl Graph.edit g

@[simp] theorem Graph.edits_nil (g : Graph) : g.edits [] = g := rfl

@[simp] theorem Graph.edits_cons (g : Graph) (e : Edit) (es : List Edit) :
    g.edits (e :: es) = (g.edit e).edits es := rfl

theorem Graph.edits_append (g : Graph) (es es' : List Edit) :
    g.edits (es ++ es') = (g.edits es).edits es' :=
  List.foldl_append

theorem Build.graph_comment (b : Build) (earlier : Option String) (subject : Iri)
    (f : Graph → Graph) : (b.comment earlier subject f).graph = f b.graph := by
  rw [Build.comment]
  split <;> rfl

theorem Build.graph_apply (b : Build) (e : Edit) : (b.apply e).graph = b.graph.edit e := by
  cases e with
  | commentClass c text => exact b.graph_comment _ _ _
  | commentProperty p text => exact b.graph_comment _ _ _
  | commentValue v text => exact b.graph_comment _ _ _
  | addRange p c =>
      rw [Build.apply, Graph.edit]
      split <;> rfl
  | _ => rfl

theorem Build.graph_foldl (es : List Edit) :
    ∀ b : Build, (es.foldl Build.apply b).graph = b.graph.edits es := by
  induction es with
  | nil => exact fun b => rfl
  | cons e es ih =>
      intro b
      rw [List.foldl_cons, ih, Build.graph_apply, Graph.edits_cons]

/-! ## Accepted runs -/

/-- The numbers in an edit are numbers of things in the graph. -/
def Edit.Fits (g : Graph) : Edit → Prop
  | .commentClass c _ => c ∈ g.ids
  | .addParent child parent => child ∈ g.ids ∧ parent ∈ g.ids
  | .addSuccessor c successor => c ∈ g.ids ∧ successor ∈ g.ids
  | .mark c => c ∈ g.ids
  | .addProperty _ => True
  | .commentProperty p _ => p < g.properties.length
  | .addRange p c => p < g.properties.length ∧ c ∈ g.ids
  | .addPropertySuccessor p _ => p < g.properties.length
  | .bind b => b.owner ∈ g.ids ∧ b.property < g.properties.length
  | .addValue _ => True
  | .commentValue v _ => v < g.values.length
  | .addMember c v => c ∈ g.ids ∧ v < g.values.length
  | .report _ => True

/-- Every edit of the run fits the graph that it is applied to. -/
def Graph.Accepts (g : Graph) : List Edit → Prop
  | [] => True
  | e :: es => e.Fits g ∧ (g.edit e).Accepts es

/-! ## What an edit is about -/

/-- The links of a graph. -/
inductive LinkKind where
  | superclass
  | successor
  | unionMember
  | membership
  deriving DecidableEq, Repr

/-- The link of a kind. -/
def Graph.link (g : Graph) : LinkKind → Link
  | .superclass => g.superclass
  | .successor => g.successor
  | .unionMember => g.unionMember
  | .membership => g.membership

namespace Edit

/-- The pair that an edit adds to a link. No edit adds to a union. -/
def pair? : LinkKind → Edit → Option (Nat × Nat)
  | .superclass, .addParent child parent => some (child, parent)
  | .successor, .addSuccessor c successor => some (c, successor)
  | .membership, .addMember c v => some (c, v)
  | _, _ => none

/-- The comment that an edit gives to the class `c`. -/
def classText? (c : ClassId) : Edit → Option String
  | .commentClass c' text => if c' = c then some text else none
  | _ => none

/-- The comment that an edit gives to the property `p`. -/
def propertyText? (p : PropertyId) : Edit → Option String
  | .commentProperty p' text => if p' = p then some text else none
  | _ => none

/-- What an edit names to be used instead of the property `p`. -/
def propertySuccessor? (p : PropertyId) : Edit → Option Term
  | .addPropertySuccessor p' t => if p' = p then some t else none
  | _ => none

/-- The comment that an edit gives to the enumeration value `v`. -/
def valueText? (v : ValueId) : Edit → Option String
  | .commentValue v' text => if v' = v then some text else none
  | _ => none

/-- The IRI of the property that an edit adds. -/
def newProperty? : Edit → Option Iri
  | .addProperty iri => some iri
  | _ => none

/-- The IRI of the enumeration value that an edit adds. -/
def newValue? : Edit → Option Iri
  | .addValue iri => some iri
  | _ => none

section

variable {e : Edit} {l : Nat × Nat}

theorem pair?_superclass : e.pair? .superclass = some l ↔ e = .addParent l.1 l.2 := by
  cases e <;> simp [pair?, Prod.ext_iff]

theorem pair?_successor : e.pair? .successor = some l ↔ e = .addSuccessor l.1 l.2 := by
  cases e <;> simp [pair?, Prod.ext_iff]

theorem pair?_membership : e.pair? .membership = some l ↔ e = .addMember l.1 l.2 := by
  cases e <;> simp [pair?, Prod.ext_iff]

end

end Edit

namespace Graph

variable {α : Type} {g : Graph} {e : Edit} {es es' : List Edit}

theorem accepts_append (es es' : List Edit) :
    ∀ g : Graph, g.Accepts (es ++ es') ↔ g.Accepts es ∧ (g.edits es).Accepts es' := by
  induction es with
  | nil => exact fun g => iff_of_eq (true_and _).symm
  | cons e es ih =>
      intro g
      rw [List.cons_append, Accepts, ih, Accepts, edits_cons, and_assoc]

/-- What held, or what an edit has brought about, holds after an accepted run. -/
theorem Accepts.or_of_step {P : Graph → Prop} {Q : Edit → Prop}
    (hstep : ∀ g e, e.Fits g → (P (g.edit e) ↔ P g ∨ Q e)) (h : g.Accepts es) :
    P (g.edits es) ↔ P g ∨ ∃ e ∈ es, Q e := by
  induction es generalizing g with
  | nil => simp
  | cons e es ih =>
      rw [edits_cons, ih h.2, hstep g e h.1, or_assoc, List.exists_mem_cons_iff]

/-- Where edits set something, the last one to do so counts. -/
theorem Accepts.last_of_step {f : Graph → Option α} {set : Edit → Option α}
    (hstep : ∀ g e, e.Fits g → f (g.edit e) = (set e).or (f g)) (h : g.Accepts es) :
    f (g.edits es) = (es.filterMap set).getLast?.or (f g) := by
  induction es generalizing g with
  | nil => rfl
  | cons e es ih =>
      rw [edits_cons, ih h.2, hstep g e h.1, List.filterMap_cons]
      cases set e with
      | none => rw [Option.none_or]
      | some x =>
          rw [Option.some_or, List.getLast?_cons]
          cases (es.filterMap set).getLast? <;> rfl

/-- Where edits append something, they do so in order. -/
theorem Accepts.append_of_step {f : Graph → List α} {added : Edit → Option α}
    (hstep : ∀ g e, e.Fits g → f (g.edit e) = f g ++ (added e).toList) (h : g.Accepts es) :
    f (g.edits es) = f g ++ es.filterMap added := by
  induction es generalizing g with
  | nil => exact (List.append_nil _).symm
  | cons e es ih =>
      rw [edits_cons, ih h.2, hstep g e h.1, List.filterMap_cons]
      cases added e with
      | none => rw [Option.toList_none, List.append_nil]
      | some x => rw [Option.toList_some, List.append_assoc, List.singleton_append]

/-- What every fitting edit preserves, an accepted run preserves. -/
theorem Accepts.preserves {P : Graph → Prop} (hstep : ∀ g e, e.Fits g → P g → P (g.edit e))
    (h : g.Accepts es) (hg : P g) : P (g.edits es) := by
  induction es generalizing g with
  | nil => exact hg
  | cons e es ih => exact ih h.2 (hstep g e h.1 hg)

/-- What no edit changes stays as it was. -/
theorem edits_eq_of_step {f : Graph → α} (hstep : ∀ g e, f (g.edit e) = f g) (es : List Edit) :
    ∀ g : Graph, f (g.edits es) = f g := by
  induction es with
  | nil => exact fun g => rfl
  | cons e es ih =>
      intro g
      rw [edits_cons, ih, hstep]

/-! ## Edits that may change nothing -/

theorem modifyProperty_congr {f f' : PropertyEntry → PropertyEntry} {p : PropertyId}
    (h : f (g.property p) = f' (g.property p)) : g.modifyProperty p f = g.modifyProperty p f' := by
  have hprops : g.properties.modify p f = g.properties.modify p f' := by
    refine List.ext_getElem? fun i => ?_
    rw [List.getElem?_modify, List.getElem?_modify]
    by_cases hi : p = i
    · subst hi
      rw [property] at h
      cases hentry : g.properties[p]? with
      | none => rfl
      | some e => simpa [hentry] using h
    · simp [hi]
  unfold modifyProperty
  rw [hprops]

/-- A range that is there already is not added again. -/
theorem edit_addRange (g : Graph) (p : PropertyId) (c : ClassId) :
    g.edit (.addRange p c) = g.modifyProperty p fun e =>
      if c ∈ e.ranges then e else { e with ranges := e.ranges ++ [c] } := by
  rw [edit]
  split
  · next hmem =>
      have hid : g.modifyProperty p id = g.modifyProperty p fun e =>
          if c ∈ e.ranges then e else { e with ranges := e.ranges ++ [c] } :=
        modifyProperty_congr (if_pos hmem).symm
      rw [← hid, modifyProperty, List.modify_id]
  · next hmem => exact modifyProperty_congr (if_neg hmem).symm

/-- A property that a class has already is not bound again. -/
theorem edit_bind (g : Graph) (b : Binding) :
    g.edit (.bind b) = { g with
      bindings := if g.bindings.any fun b' => b'.owner = b.owner && b'.property = b.property
        then g.bindings else g.bindings ++ [b] } := by
  rw [edit, bind]
  split <;> rfl

/-! ## Classes -/

theorem classIris_modifyClass (g : Graph) (c : ClassId) {f : ClassEntry → ClassEntry}
    (hf : ∀ e, (f e).iri = e.iri) : (g.modifyClass c f).classIris = g.classIris := by
  refine List.ext_getElem? fun i => ?_
  simp only [classIris, modifyClass, List.getElem?_map, List.getElem?_modify]
  cases g.classes[i]? with
  | none => rfl
  | some e =>
      by_cases h : c = i
      · simp [h, hf]
      · simp [h]

theorem entry_modifyClass_self {c : ClassId} (hc : c ∈ g.ids) (f : ClassEntry → ClassEntry) :
    (g.modifyClass c f).entry c = f (g.entry c) := by
  have hlt : c < g.classes.length := mem_ids.1 hc
  simp [entry, modifyClass, List.getElem?_eq_getElem hlt]

theorem entry_modifyClass_of_ne {c d : ClassId} (hcd : c ≠ d) (f : ClassEntry → ClassEntry) :
    (g.modifyClass c f).entry d = g.entry d := by
  simp [entry, modifyClass, hcd]

theorem classIris_edit (g : Graph) (e : Edit) : (g.edit e).classIris = g.classIris := by
  cases e with
  | commentClass c text => exact g.classIris_modifyClass c fun _ => rfl
  | mark c => exact g.classIris_modifyClass c fun _ => rfl
  | addRange p c => rw [edit_addRange]; rfl
  | bind b => rw [edit_bind]; rfl
  | _ => rfl

theorem classIris_edits (g : Graph) (es : List Edit) : (g.edits es).classIris = g.classIris :=
  edits_eq_of_step classIris_edit es g

theorem ids_edit (g : Graph) (e : Edit) : (g.edit e).ids = g.ids :=
  ids_congr (classIris_edit g e)

theorem ids_edits (g : Graph) (es : List Edit) : (g.edits es).ids = g.ids :=
  ids_congr (classIris_edits g es)

/-- A single edit leaves the kind and the aliases of a class as they are. -/
theorem entry_edit (g : Graph) (e : Edit) (he : e.Fits g) (c : ClassId) :
    (g.edit e).entry c =
      { g.entry c with
        comment := (e.classText? c).or (g.entry c).comment
        marked := (g.entry c).marked || decide (e = .mark c) } := by
  have hsame : ∀ x : ClassEntry, x = { x with comment := x.comment, marked := x.marked || false } :=
    fun x => by rw [Bool.or_false]
  cases e with
  | commentClass d text =>
      by_cases hdc : d = c
      · subst hdc
        rw [edit, setComment, entry_modifyClass_self he]
        simp [Edit.classText?]
      · rw [edit, setComment, entry_modifyClass_of_ne hdc]
        simp [Edit.classText?, hdc]
  | mark d =>
      by_cases hdc : d = c
      · subst hdc
        rw [edit, setMarked, entry_modifyClass_self he]
        simp [Edit.classText?]
      · rw [edit, setMarked, entry_modifyClass_of_ne hdc]
        simp [Edit.classText?, hdc]
  | addRange p d => rw [edit_addRange]; exact hsame _
  | bind b => rw [edit_bind]; exact hsame _
  | _ => exact hsame _

theorem Accepts.kind_eq (h : g.Accepts es) (c : ClassId) : (g.edits es).kind c = g.kind c := by
  induction es generalizing g with
  | nil => rfl
  | cons e es ih => rw [edits_cons, ih h.2, Graph.kind, entry_edit g e h.1, Graph.kind]

theorem Accepts.aliases_eq (h : g.Accepts es) (c : ClassId) :
    ((g.edits es).entry c).aliases = (g.entry c).aliases := by
  induction es generalizing g with
  | nil => rfl
  | cons e es ih => rw [edits_cons, ih h.2, entry_edit g e h.1]

theorem iri_edits (g : Graph) (es : List Edit) (c : ClassId) :
    (g.edits es).iri c = g.iri c := by
  rw [iri_eq, iri_eq, classIris_edits]

/-- The comment of a class after a run is the last that it is given. -/
theorem Accepts.comment_eq (h : g.Accepts es) (c : ClassId) :
    ((g.edits es).entry c).comment =
      (es.filterMap (Edit.classText? c)).getLast?.or (g.entry c).comment :=
  h.last_of_step (f := fun g => (g.entry c).comment) fun g e he => by rw [entry_edit g e he]

theorem Accepts.marked_iff (h : g.Accepts es) (c : ClassId) :
    ((g.edits es).entry c).marked = true ↔ (g.entry c).marked = true ∨ .mark c ∈ es := by
  rw [h.or_of_step (P := fun g => (g.entry c).marked = true) (Q := (· = .mark c)) fun g e he => ?_]
  · simp
  · rw [entry_edit g e he, Bool.or_eq_true, decide_eq_true_iff]

/-! ## Links -/

/-- A link gets the pair that an edit has for it, and is left alone by all other edits. -/
theorem link_edit (g : Graph) (e : Edit) (k : LinkKind) : (g.edit e).link k =
    match e.pair? k with
    | some (a, b) => (g.link k).add a b
    | none => g.link k := by
  cases e with
  | addRange p c => rw [edit_addRange]; cases k <;> rfl
  | bind b => rw [edit_bind]; cases k <;> rfl
  | _ => cases k <;> rfl

theorem mem_link_edit (g : Graph) (e : Edit) (k : LinkKind) (l : Nat × Nat) :
    l ∈ ((g.edit e).link k).pairs ↔ l ∈ (g.link k).pairs ∨ e.pair? k = some l := by
  rw [link_edit]
  cases e.pair? k <;> simp [eq_comm]

/-- A pair is linked after a run if it was before, or if an edit adds it. -/
theorem Accepts.mem_link (h : g.Accepts es) (k : LinkKind) (l : Nat × Nat) :
    l ∈ ((g.edits es).link k).pairs ↔
      l ∈ (g.link k).pairs ∨ ∃ e ∈ es, e.pair? k = some l :=
  h.or_of_step (P := fun g => l ∈ (g.link k).pairs) (Q := fun e => e.pair? k = some l)
    fun g e _ => mem_link_edit g e k l

theorem unionMember_edits (g : Graph) (es : List Edit) :
    (g.edits es).unionMember = g.unionMember :=
  edits_eq_of_step (fun g e => (link_edit g e .unionMember).trans (by cases e <;> rfl)) es g

theorem Accepts.mem_superclass (h : g.Accepts es) (c p : ClassId) :
    (c, p) ∈ (g.edits es).superclass.pairs ↔
      (c, p) ∈ g.superclass.pairs ∨ .addParent c p ∈ es :=
  (h.mem_link .superclass (c, p)).trans (or_congr_right (by simp [Edit.pair?_superclass]))

theorem Accepts.mem_successor (h : g.Accepts es) (c p : ClassId) :
    (c, p) ∈ (g.edits es).successor.pairs ↔
      (c, p) ∈ g.successor.pairs ∨ .addSuccessor c p ∈ es :=
  (h.mem_link .successor (c, p)).trans (or_congr_right (by simp [Edit.pair?_successor]))

theorem Accepts.mem_membership (h : g.Accepts es) (c : ClassId) (v : ValueId) :
    (c, v) ∈ (g.edits es).membership.pairs ↔
      (c, v) ∈ g.membership.pairs ∨ .addMember c v ∈ es :=
  (h.mem_link .membership (c, v)).trans (or_congr_right (by simp [Edit.pair?_membership]))

/-! ## Properties -/

theorem propertyIris_modifyProperty (g : Graph) (p : PropertyId)
    {f : PropertyEntry → PropertyEntry} (hf : ∀ e, (f e).iri = e.iri) :
    (g.modifyProperty p f).propertyIris = g.propertyIris := by
  refine List.ext_getElem? fun i => ?_
  simp only [propertyIris, modifyProperty, List.getElem?_map, List.getElem?_modify]
  cases g.properties[i]? with
  | none => rfl
  | some e =>
      by_cases h : p = i
      · simp [h, hf]
      · simp [h]

theorem propertyIris_edit (g : Graph) (e : Edit) :
    (g.edit e).propertyIris = g.propertyIris ++ e.newProperty?.toList := by
  have hsame : ∀ {xs ys : List Iri}, xs = ys → xs = ys ++ [] :=
    fun h => h.trans (List.append_nil _).symm
  cases e with
  | addProperty iri => simp [edit, addProperty, propertyIris, Edit.newProperty?]
  | commentProperty p text => exact hsame (g.propertyIris_modifyProperty p fun _ => rfl)
  | addPropertySuccessor p t => exact hsame (g.propertyIris_modifyProperty p fun _ => rfl)
  | addRange p d =>
      rw [edit_addRange]
      refine hsame (g.propertyIris_modifyProperty p fun e => ?_)
      split <;> rfl
  | bind b => rw [edit_bind]; exact hsame rfl
  | _ => exact hsame rfl

theorem Accepts.propertyIris_eq (h : g.Accepts es) :
    (g.edits es).propertyIris = g.propertyIris ++ es.filterMap Edit.newProperty? :=
  h.append_of_step fun g e _ => propertyIris_edit g e

theorem Accepts.length_properties (h : g.Accepts es) :
    (g.edits es).properties.length =
      g.properties.length + (es.filterMap Edit.newProperty?).length := by
  have hlength := congrArg List.length h.propertyIris_eq
  rwa [propertyIris, propertyIris, List.length_append, List.length_map, List.length_map] at hlength

theorem property_modifyProperty_self {p : PropertyId} (hp : p < g.properties.length)
    (f : PropertyEntry → PropertyEntry) : (g.modifyProperty p f).property p = f (g.property p) := by
  simp [property, modifyProperty, List.getElem?_eq_getElem hp]

theorem property_modifyProperty_of_ne {p q : PropertyId} (hpq : p ≠ q)
    (f : PropertyEntry → PropertyEntry) : (g.modifyProperty p f).property q = g.property q := by
  simp [property, modifyProperty, hpq]

/-- A property that is added has no more to say than one that is not there. -/
theorem property_addProperty (g : Graph) (iri : Iri) (p : PropertyId) :
    ∃ a, (g.addProperty iri).1.property p = { g.property p with iri := a } := by
  rw [property, property, addProperty, List.getElem?_append]
  split
  · exact ⟨_, rfl⟩
  · next hp =>
      rw [List.getElem?_eq_none (Nat.le_of_not_lt hp)]
      rcases Nat.lt_or_ge (p - g.properties.length) 1 with hlt | hge
      · rw [Nat.lt_one_iff.1 hlt]
        exact ⟨iri, rfl⟩
      · rw [List.getElem?_eq_none (by simpa using hge)]
        exact ⟨_, rfl⟩

/-- What an edit makes of a property, apart from its IRI. -/
theorem property_edit (g : Graph) (e : Edit) (he : e.Fits g) (p : PropertyId) :
    ((g.edit e).property p).comment = (e.propertyText? p).or (g.property p).comment ∧
      (∀ c, c ∈ ((g.edit e).property p).ranges ↔ c ∈ (g.property p).ranges ∨ e = .addRange p c) ∧
      ((g.edit e).property p).successors =
        (g.property p).successors ++ (e.propertySuccessor? p).toList := by
  cases e with
  | addProperty iri =>
      obtain ⟨a, ha⟩ := g.property_addProperty iri p
      rw [edit, ha]
      simp [Edit.propertyText?, Edit.propertySuccessor?]
  | commentProperty q text =>
      by_cases hqp : q = p
      · subst hqp
        rw [edit, setPropertyComment, property_modifyProperty_self he]
        simp [Edit.propertyText?, Edit.propertySuccessor?]
      · rw [edit, setPropertyComment, property_modifyProperty_of_ne hqp]
        simp [Edit.propertyText?, Edit.propertySuccessor?, hqp]
  | addRange q d =>
      by_cases hqp : q = p
      · subst hqp
        rw [edit_addRange, property_modifyProperty_self he.1]
        split
        · next hmem =>
            simp only [Edit.propertyText?, Edit.propertySuccessor?, Option.none_or,
              Option.toList_none, List.append_nil, Edit.addRange.injEq, true_and]
            exact ⟨fun c => ⟨Or.inl, fun h => h.elim id fun h => h ▸ hmem⟩, trivial⟩
        · simp [Edit.propertyText?, Edit.propertySuccessor?, eq_comm]
      · rw [edit_addRange, property_modifyProperty_of_ne hqp]
        simp [Edit.propertyText?, Edit.propertySuccessor?, hqp]
  | addPropertySuccessor q t =>
      by_cases hqp : q = p
      · subst hqp
        rw [edit, addPropertySuccessor, property_modifyProperty_self he]
        simp [Edit.propertyText?, Edit.propertySuccessor?]
      · rw [edit, addPropertySuccessor, property_modifyProperty_of_ne hqp]
        simp [Edit.propertyText?, Edit.propertySuccessor?, hqp]
  | bind b =>
      rw [edit_bind]
      simp [property, Edit.propertyText?, Edit.propertySuccessor?]
  | _ =>
      simp [edit, setComment, setMarked, modifyClass, addParent, addSuccessor, addValue,
        setValueComment, addMember, property, Edit.propertyText?, Edit.propertySuccessor?]

theorem Accepts.property_comment (h : g.Accepts es) (p : PropertyId) :
    ((g.edits es).property p).comment =
      (es.filterMap (Edit.propertyText? p)).getLast?.or (g.property p).comment :=
  h.last_of_step (f := fun g => (g.property p).comment) fun g e he => (property_edit g e he p).1

theorem Accepts.mem_ranges (h : g.Accepts es) (p : PropertyId) (c : ClassId) :
    c ∈ ((g.edits es).property p).ranges ↔ c ∈ (g.property p).ranges ∨ .addRange p c ∈ es := by
  rw [h.or_of_step (P := fun g => c ∈ (g.property p).ranges) (Q := (· = .addRange p c))
    fun g e he => (property_edit g e he p).2.1 c]
  simp

theorem Accepts.property_successors (h : g.Accepts es) (p : PropertyId) :
    ((g.edits es).property p).successors =
      (g.property p).successors ++ es.filterMap (Edit.propertySuccessor? p) :=
  h.append_of_step (f := fun g => (g.property p).successors) fun g e he =>
    (property_edit g e he p).2.2

/-! ## Bindings -/

/-- The class `c` has the property `p`. -/
def Bound (g : Graph) (c : ClassId) (p : PropertyId) : Prop :=
  ∃ b ∈ g.bindings, b.owner = c ∧ b.property = p

/-- No class has a property twice. -/
def BoundOnce (g : Graph) : Prop :=
  g.bindings.Pairwise fun b b' => ¬ (b.owner = b'.owner ∧ b.property = b'.property)

theorem bindings_edit_of_ne (g : Graph) {e : Edit} (h : ∀ b, e ≠ .bind b) :
    (g.edit e).bindings = g.bindings := by
  cases e with
  | bind b => exact absurd rfl (h b)
  | addRange p c => rw [edit_addRange]; rfl
  | _ => rfl

theorem mem_bindings_edit (g : Graph) (e : Edit) {b : Binding} (hb : b ∈ (g.edit e).bindings) :
    b ∈ g.bindings ∨ e = .bind b := by
  by_cases h : ∃ b', e = .bind b'
  · obtain ⟨b', rfl⟩ := h
    rw [edit_bind] at hb
    dsimp only at hb
    split at hb
    · exact Or.inl hb
    · exact (List.mem_append.1 hb).imp id fun hb => by rw [List.mem_singleton.1 hb]
  · rw [bindings_edit_of_ne g fun b' hb' => h ⟨b', hb'⟩] at hb
    exact Or.inl hb

theorem bound_edit (g : Graph) (e : Edit) (c : ClassId) (p : PropertyId) :
    (g.edit e).Bound c p ↔ g.Bound c p ∨ ∃ key, e = .bind { owner := c, property := p, key } := by
  by_cases h : ∃ b, e = .bind b
  · obtain ⟨b, rfl⟩ := h
    rw [edit_bind, Bound, Bound]
    dsimp only
    split
    · next hany =>
        refine ⟨Or.inl, fun hor => hor.elim id ?_⟩
        rintro ⟨key, heq⟩
        obtain rfl := Edit.bind.inj heq
        simpa using hany
    · obtain ⟨owner, property, key⟩ := b
      simp only [List.mem_append, List.mem_singleton, or_and_right, exists_or, exists_eq_left,
        Edit.bind.injEq, Binding.mk.injEq]
      exact or_congr_right ⟨fun h => ⟨key, h.1, h.2, rfl⟩, fun ⟨_, h⟩ => ⟨h.1, h.2.1⟩⟩
  · have hne : ∀ b, e ≠ .bind b := fun b hb => h ⟨b, hb⟩
    rw [Bound, bindings_edit_of_ne g hne]
    exact ⟨Or.inl, fun hor => hor.elim id fun ⟨key, hkey⟩ => absurd hkey (hne _)⟩

theorem BoundOnce.edit (h : g.BoundOnce) (e : Edit) : (g.edit e).BoundOnce := by
  by_cases hbind : ∃ b, e = .bind b
  · obtain ⟨b, rfl⟩ := hbind
    rw [edit_bind, BoundOnce]
    dsimp only
    split
    · exact h
    · next hnone =>
        refine List.pairwise_append.2 ⟨h, List.pairwise_singleton _ _, fun b₁ hb₁ b₂ hb₂ => ?_⟩
        rw [List.mem_singleton.1 hb₂]
        intro hsame
        exact hnone (List.any_eq_true.2 ⟨b₁, hb₁, by simp [hsame.1, hsame.2]⟩)
  · rw [BoundOnce, bindings_edit_of_ne g fun b hb => hbind ⟨b, hb⟩]
    exact h

theorem Accepts.bound_iff (h : g.Accepts es) (c : ClassId) (p : PropertyId) :
    (g.edits es).Bound c p ↔
      g.Bound c p ∨ ∃ key, .bind { owner := c, property := p, key } ∈ es := by
  rw [h.or_of_step (P := fun g => g.Bound c p)
    (Q := fun e => ∃ key, e = .bind { owner := c, property := p, key })
    fun g e _ => bound_edit g e c p]
  refine or_congr_right ⟨?_, ?_⟩
  · rintro ⟨_, he, key, rfl⟩
    exact ⟨key, he⟩
  · exact fun ⟨key, he⟩ => ⟨_, he, key, rfl⟩

theorem mem_bindings_edits (es : List Edit) {b : Binding} :
    ∀ g : Graph, b ∈ (g.edits es).bindings → b ∈ g.bindings ∨ .bind b ∈ es := by
  induction es with
  | nil => exact fun g hb => Or.inl hb
  | cons e es ih =>
      intro g hb
      rcases ih (g.edit e) hb with hb | hb
      · rcases mem_bindings_edit g e hb with hb | rfl
        · exact Or.inl hb
        · exact Or.inr List.mem_cons_self
      · exact Or.inr (List.mem_cons_of_mem e hb)

/-! ## Enumeration values -/

theorem valueIris_setValueComment (g : Graph) (v : ValueId) (text : String) :
    (g.setValueComment v text).valueIris = g.valueIris := by
  refine List.ext_getElem? fun i => ?_
  simp only [valueIris, setValueComment, List.getElem?_map, List.getElem?_modify]
  cases g.values[i]? with
  | none => rfl
  | some e => by_cases h : v = i <;> simp [h]

theorem valueIris_edit (g : Graph) (e : Edit) :
    (g.edit e).valueIris = g.valueIris ++ e.newValue?.toList := by
  have hsame : ∀ {xs ys : List Iri}, xs = ys → xs = ys ++ [] :=
    fun h => h.trans (List.append_nil _).symm
  cases e with
  | addValue iri => simp [edit, addValue, valueIris, Edit.newValue?]
  | commentValue v text => exact hsame (g.valueIris_setValueComment v text)
  | addRange p d => rw [edit_addRange]; exact hsame rfl
  | bind b => rw [edit_bind]; exact hsame rfl
  | _ => exact hsame rfl

theorem Accepts.valueIris_eq (h : g.Accepts es) :
    (g.edits es).valueIris = g.valueIris ++ es.filterMap Edit.newValue? :=
  h.append_of_step fun g e _ => valueIris_edit g e

theorem Accepts.length_values (h : g.Accepts es) :
    (g.edits es).values.length = g.values.length + (es.filterMap Edit.newValue?).length := by
  have hlength := congrArg List.length h.valueIris_eq
  rwa [valueIris, valueIris, List.length_append, List.length_map, List.length_map] at hlength

theorem value_comment_edit (g : Graph) (e : Edit) (he : e.Fits g) (v : ValueId) :
    ((g.edit e).value v).comment = (e.valueText? v).or (g.value v).comment := by
  cases e with
  | addValue iri =>
      rw [value, value, edit, addValue, List.getElem?_append]
      split
      · simp [Edit.valueText?]
      · next hv =>
          rw [List.getElem?_eq_none (Nat.le_of_not_lt hv)]
          rcases Nat.lt_or_ge (v - g.values.length) 1 with hlt | hge
          · rw [Nat.lt_one_iff.1 hlt]
            rfl
          · rw [List.getElem?_eq_none (by simpa using hge)]
            rfl
  | commentValue w text =>
      by_cases hwv : w = v
      · subst hwv
        have hlt : w < g.values.length := he
        simp [value, edit, setValueComment, Edit.valueText?, List.getElem?_eq_getElem hlt]
      · simp [value, edit, setValueComment, Edit.valueText?, hwv]
  | addRange p d => rw [edit_addRange]; simp [value, modifyProperty, Edit.valueText?]
  | bind b => rw [edit_bind]; simp [value, Edit.valueText?]
  | _ => rfl

theorem Accepts.value_comment (h : g.Accepts es) (v : ValueId) :
    ((g.edits es).value v).comment =
      (es.filterMap (Edit.valueText? v)).getLast?.or (g.value v).comment :=
  h.last_of_step (f := fun g => (g.value v).comment) fun g e he => value_comment_edit g e he v

/-! ## Numbers stay in range -/

theorem length_properties_edit (g : Graph) (e : Edit) :
    g.properties.length ≤ (g.edit e).properties.length := by
  have h := congrArg List.length (propertyIris_edit g e)
  simp only [propertyIris, List.length_append, List.length_map] at h
  omega

theorem length_values_edit (g : Graph) (e : Edit) :
    g.values.length ≤ (g.edit e).values.length := by
  have h := congrArg List.length (valueIris_edit g e)
  simp only [valueIris, List.length_append, List.length_map] at h
  omega

theorem InRange.edit (h : g.InRange) (e : Edit) (he : e.Fits g) : (g.edit e).InRange where
  superclass l hl := by
      rw [ids_edit]
      rcases (mem_link_edit g e .superclass l).1 hl with hl | hl
      · exact h.superclass l hl
      · obtain rfl := Edit.pair?_superclass.1 hl
        exact he
  successor l hl := by
      rw [ids_edit]
      rcases (mem_link_edit g e .successor l).1 hl with hl | hl
      · exact h.successor l hl
      · obtain rfl := Edit.pair?_successor.1 hl
        exact he
  unionMember l hl := by
      rw [ids_edit]
      rcases (mem_link_edit g e .unionMember l).1 hl with hl | hl
      · exact h.unionMember l hl
      · exact absurd hl (by cases e <;> simp [Edit.pair?])
  range p hp c hc := by
      obtain ⟨i, hi, rfl⟩ := List.getElem_of_mem hp
      have hget : (g.edit e).property i = (g.edit e).properties[i] := by
        rw [property, List.getElem?_eq_getElem hi, Option.getD_some]
      rw [← hget] at hc
      rw [ids_edit]
      rcases ((property_edit g e he i).2.1 c).1 hc with hc | rfl
      · refine h.range (g.property i) (property_mem ?_) c hc
        by_contra hlt
        rw [property, List.getElem?_eq_none (Nat.le_of_not_lt hlt)] at hc
        exact absurd hc List.not_mem_nil
      · exact he.2
  binding b hb := by
      rw [ids_edit]
      rcases mem_bindings_edit g e hb with hb | rfl
      · exact (h.binding b hb).imp_right fun hlt =>
          Nat.lt_of_lt_of_le hlt (length_properties_edit g e)
      · exact ⟨he.1, Nat.lt_of_lt_of_le he.2 (length_properties_edit g _)⟩
  membership l hl := by
      rw [ids_edit]
      rcases (mem_link_edit g e .membership l).1 hl with hl | hl
      · exact (h.membership l hl).imp_right fun hlt =>
          Nat.lt_of_lt_of_le hlt (length_values_edit g e)
      · obtain rfl := Edit.pair?_membership.1 hl
        exact ⟨he.1, Nat.lt_of_lt_of_le he.2 (length_values_edit g _)⟩

/-- Accepted runs keep every number in range. -/
theorem InRange.edits (h : g.InRange) (hes : g.Accepts es) : (g.edits es).InRange :=
  hes.preserves (fun _ e he hg => hg.edit e he) h

theorem BoundOnce.edits (h : g.BoundOnce) (es : List Edit) : (g.edits es).BoundOnce := by
  induction es generalizing g with
  | nil => exact h
  | cons e es ih => exact ih (h.edit e)

end Graph

end Ontotype

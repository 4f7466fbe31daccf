import Ontotype.Assembly.Stages
import Ontotype.Proofs.Assembly.Edits
import Ontotype.Proofs.Rdf.Topics

set_option autoImplicit false

/-! # What statements ask for

A stage that is not stopped applies all edits that its readings ask for. What a single statement
asks for is written out as a list, with a part for each kind of edit, so that everything that is to
be known of the edits of a stage can be read off such lists. Readings look classes up by IRI, and
nothing else: they read the same in all graphs with the same classes. -/

namespace Ontotype

open Vocabulary

variable {g h : Graph} {s : Statement} {c : ClassId} {p : PropertyId} {v : ValueId} {e : Edit}

/-! ## Stages -/

/-- The edits that a reading asks for; none if it is refused. -/
def Reading.edits : Reading → List Edit
  | .ok es => es
  | .error _ => []

/-- The reading is not refused. -/
def Reading.Ok (r : Reading) : Prop := ∃ es, r = .ok es

theorem editsOf_of_ok {rs : List Reading} (hok : ∀ r ∈ rs, r.Ok) :
    editsOf rs = (rs.flatMap Reading.edits, none) := by
  induction rs with
  | nil => rfl
  | cons r rs ih =>
      obtain ⟨es, rfl⟩ := hok r List.mem_cons_self
      rw [editsOf_cons_ok, ih fun r hr => hok r (List.mem_cons_of_mem _ hr), List.flatMap_cons]
      rfl

theorem ok_of_editsOf {rs : List Reading} (hnone : (editsOf rs).2 = none) : ∀ r ∈ rs, r.Ok := by
  induction rs with
  | nil => exact fun r hr => absurd hr List.not_mem_nil
  | cons r rs ih =>
      intro r' hr'
      cases r with
      | error err =>
          rw [editsOf_cons_error] at hnone
          exact absurd hnone (by simp)
      | ok es =>
          rw [editsOf_cons_ok] at hnone
          rcases List.mem_cons.1 hr' with rfl | hr'
          · exact ⟨es, rfl⟩
          · exact ih hnone r' hr'

/-- A stage is not stopped if and only if none of its readings is refused, and then it applies the
    edits of all of them. -/
theorem run_eq_ok_iff {b b' : Build} {rs : List Reading} : (b.run rs).toExcept = .ok b' ↔
    (∀ r ∈ rs, r.Ok) ∧ b' = (rs.flatMap Reading.edits).foldl Build.apply b := by
  constructor
  · intro hrun
    cases hfailure : (editsOf rs).2 with
    | some err =>
        rw [Outcome.toExcept, Build.run, hfailure] at hrun
        exact absurd hrun (by simp)
    | none =>
        have hok := ok_of_editsOf hfailure
        rw [Outcome.toExcept, Build.run, editsOf_of_ok hok] at hrun
        exact ⟨hok, (Except.ok.inj hrun).symm⟩
  · rintro ⟨hok, rfl⟩
    rw [Outcome.toExcept, Build.run, editsOf_of_ok hok]

/-! ## Statements -/

/-- The text of a comment. -/
def Statement.text? (s : Statement) : Option String :=
  match s.kind, s.object with
  | .comment, .literal value _ => some value
  | _, _ => none

/-- What a statement names to be used instead of its subject. -/
def Statement.successor? (s : Statement) : Option Term :=
  if s.kind = .supersededBy then some s.object else none

/-- The class that the object of a statement names. -/
def Graph.named? (g : Graph) (s : Statement) : Option ClassId := s.object.iri?.bind g.find?

theorem edits_comment? (s : Statement) (f : String → Edit) :
    Reading.edits (s.comment?.map fun text => text.toList.map f) = s.text?.toList.map f := by
  rw [Statement.comment?, Statement.text?]
  cases s.kind <;> cases s.object <;> rfl

theorem edits_resolve (g : Graph) (s : Statement) (f : ClassId → Edit) :
    Reading.edits ((g.resolve s).map fun c => [f c]) = (g.named? s).toList.map f := by
  rw [Graph.resolve, Graph.named?]
  cases s.object.iri? with
  | none => rfl
  | some a =>
      rw [Option.bind_some]
      dsimp only
      cases g.find? a <;> rfl

theorem ok_resolve_iff {f : ClassId → List Edit} :
    Reading.Ok ((g.resolve s).map f) ↔ (g.named? s).isSome = true := by
  rw [Graph.resolve, Graph.named?]
  cases s.object.iri? with
  | none => simp [Reading.Ok, Except.map]
  | some a =>
      rw [Option.bind_some]
      dsimp only
      cases g.find? a <;> simp [Reading.Ok, Except.map]

/-- The class that is described has no use for the statement. -/
def Statement.uselessForClass (s : Statement) : Bool :=
  match s.kind with
  | .comment | .subClassOf | .supersededBy => false
  | .type => s.object.isLiteral
  | .domainIncludes | .rangeIncludes | .other => true

/-- The property that is described has no use for the statement. -/
def Statement.uselessForProperty (s : Statement) : Bool :=
  match s.kind with
  | .comment | .rangeIncludes | .domainIncludes | .supersededBy => false
  | .type => s.object.isLiteral
  | .subClassOf | .other => true

/-- The enumeration value that is described has no use for the statement. -/
def Statement.uselessForValue (s : Statement) : Bool :=
  match s.kind with
  | .comment | .type => false
  | _ => true

theorem isClassType_of_isLiteral (t : Term) (ht : t.isLiteral = true) : t.isClassType = false := by
  cases t with
  | literal value language => rfl
  | _ => exact absurd ht (by simp [Term.isLiteral])

/-- What a statement asks for about the class `c`, which is its subject. -/
theorem edits_readClassStatement (hc : g.find? s.subject = some c) :
    (readClassStatement g s).edits =
      s.text?.toList.map (.commentClass c)
      ++ (if s.kind = .subClassOf ∧ s.object.isClassType = false
          then (g.named? s).toList.map (.addParent c) else [])
      ++ (if s.kind = .supersededBy then (g.named? s).toList.map (.addSuccessor c) else [])
      ++ (if s.kind = .type ∧ s.object.isClassType = true then [.mark c] else [])
      ++ (if s.uselessForClass then [.report s] else []) := by
  rw [readClassStatement, hc, Statement.uselessForClass]
  dsimp only
  cases hkind : s.kind with
  | comment => simp [edits_comment?]
  | subClassOf =>
      by_cases hclass : s.object.isClassType = true
      · simp [hclass, Statement.text?, hkind, Reading.edits]
      · simp [hclass, Statement.text?, hkind, edits_resolve]
  | supersededBy => simp [Statement.text?, hkind, edits_resolve]
  | type =>
      by_cases hclass : s.object.isClassType = true
      · have hliteral : s.object.isLiteral = false := by
          by_contra hne
          rw [isClassType_of_isLiteral _ (by simpa using hne)] at hclass
          exact absurd hclass (by simp)
        simp [hclass, hliteral, Statement.text?, hkind, Reading.edits]
      · cases s.object.isLiteral <;> simp [hclass, Statement.text?, hkind, Reading.edits]
  | _ => simp [Statement.text?, hkind, Reading.edits]

/-- What a statement asks for about the property `p`, which is its subject. -/
theorem edits_readPropertyStatement (g : Graph) (p : PropertyId) (s : Statement) :
    (readPropertyStatement g p s).edits =
      s.text?.toList.map (.commentProperty p)
      ++ (if s.kind = .rangeIncludes then (g.named? s).toList.map (.addRange p) else [])
      ++ (if s.kind = .domainIncludes
          then (g.named? s).toList.map fun c =>
            .bind { owner := c, property := p, key := s.subject }
          else [])
      ++ (if s.kind = .supersededBy then [.addPropertySuccessor p s.object] else [])
      ++ (if s.uselessForProperty then [.report s] else []) := by
  rw [readPropertyStatement, Statement.uselessForProperty]
  cases hkind : s.kind with
  | comment => simp [edits_comment?]
  | rangeIncludes => simp [Statement.text?, hkind, edits_resolve]
  | domainIncludes =>
      simp [Statement.text?, hkind,
        edits_resolve g s fun c => .bind { owner := c, property := p, key := s.subject }]
  | type => cases s.object.isLiteral <;> simp [Statement.text?, hkind, Reading.edits]
  | _ => simp [Statement.text?, hkind, Reading.edits]

/-- What a statement asks for about the enumeration value `v`, which is its subject. -/
theorem edits_readValueStatement (v : ValueId) (elsewhere : Bool) (s : Statement) :
    (readValueStatement v elsewhere s).edits =
      s.text?.toList.map (.commentValue v)
      ++ (if s.uselessForValue && !elsewhere then [.report s] else []) := by
  rw [readValueStatement, Statement.uselessForValue]
  cases hkind : s.kind with
  | comment => simp [edits_comment?]
  | _ => cases elsewhere <;> simp [Statement.text?, hkind, Reading.edits]

theorem edits_readValueType (g : Graph) (v : ValueId) (subject type : Iri) :
    (readValueType g v subject type).edits = (g.find? type).toList.map fun c => .addMember c v := by
  rw [readValueType]
  cases g.find? type <;> rfl

/-! ## Single edits -/

theorem named?_eq_some_iff :
    g.named? s = some c ↔ ∃ a, s.object.iri? = some a ∧ g.find? a = some c :=
  Option.bind_eq_some_iff

theorem mem_ids_of_named? (h : g.named? s = some c) : c ∈ g.ids := by
  obtain ⟨a, _, ha⟩ := named?_eq_some_iff.1 h
  exact Graph.mem_ids_of_find? ha

theorem mem_edits_readClassStatement : e ∈ (readClassStatement g s).edits ↔
    ∃ c, g.find? s.subject = some c ∧
      ((∃ text, s.text? = some text ∧ e = .commentClass c text) ∨
      (∃ parent, (s.kind = .subClassOf ∧ s.object.isClassType = false) ∧
        g.named? s = some parent ∧ e = .addParent c parent) ∨
      (∃ successor, s.kind = .supersededBy ∧ g.named? s = some successor ∧
        e = .addSuccessor c successor) ∨
      ((s.kind = .type ∧ s.object.isClassType = true) ∧ e = .mark c) ∨
      s.uselessForClass = true ∧ e = .report s) := by
  cases hc : g.find? s.subject with
  | none =>
      rw [readClassStatement, hc]
      simp [Reading.edits]
  | some c =>
      rw [edits_readClassStatement hc]
      simp [List.mem_ite_nil_right, eq_comm (a := e)]

theorem mem_edits_readPropertyStatement : e ∈ (readPropertyStatement g p s).edits ↔
    (∃ text, s.text? = some text ∧ e = .commentProperty p text) ∨
      (∃ c, s.kind = .rangeIncludes ∧ g.named? s = some c ∧ e = .addRange p c) ∨
      (∃ c, s.kind = .domainIncludes ∧ g.named? s = some c ∧
        e = .bind { owner := c, property := p, key := s.subject }) ∨
      (s.kind = .supersededBy ∧ e = .addPropertySuccessor p s.object) ∨
      s.uselessForProperty = true ∧ e = .report s := by
  rw [edits_readPropertyStatement]
  simp [List.mem_ite_nil_right, eq_comm (a := e)]

theorem mem_edits_readValueStatement {elsewhere : Bool} :
    e ∈ (readValueStatement v elsewhere s).edits ↔
      (∃ text, s.text? = some text ∧ e = .commentValue v text) ∨
        (s.uselessForValue = true ∧ elsewhere = false) ∧ e = .report s := by
  rw [edits_readValueStatement]
  simp [List.mem_ite_nil_right, eq_comm (a := e)]

theorem mem_edits_readValueType {subject type : Iri} :
    e ∈ (readValueType g v subject type).edits ↔
      ∃ c, g.find? type = some c ∧ e = .addMember c v := by
  rw [edits_readValueType]
  simp [eq_comm (a := e)]

/-! ## Edits of one kind -/

theorem classText?_readClassStatement {d : ClassId} (hd : g.find? s.subject = some d) :
    (readClassStatement g s).edits.filterMap (Edit.classText? c) =
      if d = c then s.text?.toList else [] := by
  rw [edits_readClassStatement hd]
  by_cases hdc : d = c <;>
    simp [apply_ite (List.filterMap (Edit.classText? c)), List.filterMap_map, Function.comp_def,
      Edit.classText?, hdc]

theorem propertyText?_readPropertyStatement (g : Graph) (q : PropertyId) (s : Statement) :
    (readPropertyStatement g q s).edits.filterMap (Edit.propertyText? p) =
      if q = p then s.text?.toList else [] := by
  rw [edits_readPropertyStatement]
  by_cases hqp : q = p <;>
    simp [apply_ite (List.filterMap (Edit.propertyText? p)), List.filterMap_map, Function.comp_def,
      Edit.propertyText?, hqp]

theorem propertySuccessor?_readPropertyStatement (g : Graph) (q : PropertyId) (s : Statement) :
    (readPropertyStatement g q s).edits.filterMap (Edit.propertySuccessor? p) =
      if q = p then s.successor?.toList else [] := by
  rw [edits_readPropertyStatement, Statement.successor?]
  by_cases hqp : q = p <;> by_cases hkind : s.kind = .supersededBy <;>
    simp [apply_ite (List.filterMap (Edit.propertySuccessor? p)), List.filterMap_map,
      Function.comp_def, Edit.propertySuccessor?, hqp, hkind]

theorem valueText?_readValueStatement (w : ValueId) (elsewhere : Bool) (s : Statement) :
    (readValueStatement w elsewhere s).edits.filterMap (Edit.valueText? v) =
      if w = v then s.text?.toList else [] := by
  rw [edits_readValueStatement]
  by_cases hwv : w = v <;>
    simp [apply_ite (List.filterMap (Edit.valueText? v)), List.filterMap_map, Function.comp_def,
      Edit.valueText?, hwv]

/-! ## Graphs with the same classes -/

theorem resolve_congr (heq : g.classIris = h.classIris) (s : Statement) :
    g.resolve s = h.resolve s := by
  unfold Graph.resolve
  cases s.object.iri? with
  | none => rfl
  | some a =>
      dsimp only
      rw [Graph.find?_congr heq]

theorem readPropertyStatement_congr (heq : g.classIris = h.classIris) (p : PropertyId) :
    readPropertyStatement g p = readPropertyStatement h p := by
  funext s
  unfold readPropertyStatement
  rw [resolve_congr heq]

theorem readProperties_congr (heq : g.classIris = h.classIris)
    (hlength : g.properties.length = h.properties.length) (topics : List Topic) :
    readProperties g topics = readProperties h topics := by
  unfold readProperties
  rw [hlength, funext (readPropertyStatement_congr heq)]

theorem readValueType_congr (heq : g.classIris = h.classIris) (v : ValueId) (subject : Iri) :
    readValueType g v subject = readValueType h v subject := by
  funext type
  unfold readValueType
  rw [Graph.find?_congr heq]

theorem readValues_congr (heq : g.classIris = h.classIris)
    (hlength : g.values.length = h.values.length) (topics : List Topic) :
    readValues g topics = readValues h topics := by
  have htype : readValueType g = readValueType h :=
    funext fun v => funext fun subject => readValueType_congr heq v subject
  unfold readValues
  rw [hlength, htype, funext (Graph.find?_congr heq)]

end Ontotype

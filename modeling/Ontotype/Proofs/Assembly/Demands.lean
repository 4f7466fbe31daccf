import Ontotype.Proofs.Assembly.Ways

set_option autoImplicit false

/-! # Why an assembly is refused

A list of statements makes demands: a comment has to be a text, an object has to name a class, and
every class has to be declared to be one or to be below one that is. The demands have an order, that
in which the stages come across them. Whether a demand is met is a matter of what the statements
say, and a stage is refused for the first one that is not (`refuses_readClasses`,
`validate_eq_error_iff`, `refuses_readProperties`, `refuses_readValues`). -/

namespace Ontotype

open Vocabulary

/-! ## The first of several -/

/-- The first element of a list that is related to anything is related to `e`. -/
inductive First {α ε : Type} (R : α → ε → Prop) : List α → ε → Prop
  | here {x : α} {xs : List α} {e : ε} (related : R x e) : First R (x :: xs) e
  | later {x : α} {xs : List α} {e : ε} (unrelated : ∀ e', ¬ R x e') (rest : First R xs e) :
      First R (x :: xs) e

section First

variable {α β ε : Type} {R : α → ε → Prop} {x : α} {xs ys : List α} {e : ε}

theorem not_first_nil : ¬ First R [] e := fun h => nomatch h

theorem first_cons_iff : First R (x :: xs) e ↔ R x e ∨ (∀ e', ¬ R x e') ∧ First R xs e := by
  constructor
  · intro h
    cases h with
    | here hx => exact Or.inl hx
    | later hx hxs => exact Or.inr ⟨hx, hxs⟩
  · rintro (hx | ⟨hx, hxs⟩)
    · exact .here hx
    · exact .later hx hxs

theorem first_singleton_iff : First R [x] e ↔ R x e := by
  rw [first_cons_iff]
  exact or_iff_left fun h => not_first_nil h.2

theorem first_append_iff :
    First R (xs ++ ys) e ↔ First R xs e ∨ (∀ e', ¬ First R xs e') ∧ First R ys e := by
  induction xs with
  | nil => simp [not_first_nil]
  | cons x xs ih =>
      rw [List.cons_append, first_cons_iff, first_cons_iff, ih]
      have hnone : (∀ e', ¬ First R (x :: xs) e') ↔
          (∀ e', ¬ R x e') ∧ ∀ e', ¬ First R xs e' := by
        constructor
        · intro h
          have hx : ∀ e', ¬ R x e' := fun e' hx => h e' (.here hx)
          exact ⟨hx, fun e' hxs => h e' (.later hx hxs)⟩
        · rintro ⟨hx, hxs⟩ e' h
          exact (first_cons_iff.1 h).elim (hx e') fun h => hxs e' h.2
      rw [hnone]
      tauto

end First

/-! ## Demands -/

/-- What the statements of an ontology have to meet. -/
inductive Demand where
  /-- The comment is a text. -/
  | text (s : Statement)
  /-- The object names a class of the ontology. -/
  | reference (s : Statement)
  /-- The class, or one above it, is declared to be a class. -/
  | classified (a : Iri)
  deriving DecidableEq, Repr

/-- The class is declared to be one: by a statement, or because it is builtin or their union. -/
def Marked (edition : Edition) (ss : List Statement) (a : Iri) : Prop :=
  a ∈ seedIris edition ∨ Says ss a .type rdfsClass ∨
    ∃ b, Says ss a .type b ∧ b.isSchema "DataType" = true

/-- Steps to superclasses lead from the class to one that is declared to be a class. -/
def Classified (edition : Edition) (ss : List Statement) (a : Iri) : Prop :=
  ∃ b, Relation.ReflTransGen (SaysBelow ss) a b ∧ Marked edition ss b

/-- The demand is not met, which is answered by the error. -/
inductive Demand.Refused (edition : Edition) (ss : List Statement) : Demand → CompileError → Prop
  | notText {s : Statement} (object : s.object.isLiteral = false) :
      Refused edition ss (.text s) (.commentNotText s)
  | nameless {s : Statement} (object : s.object.iri? = none) :
      Refused edition ss (.reference s) (.notAReference s)
  | unknown {s : Statement} {a : Iri} (object : s.object.iri? = some a)
      (missing : ¬ KnownClass edition ss a) : Refused edition ss (.reference s) (.unknownClass s)
  | unclassified {a : Iri} (missing : ¬ Classified edition ss a) :
      Refused edition ss (.classified a) (.unclassified a)

/-- What a statement demands if its subject describes a class. -/
def classDemands (s : Statement) : List Demand :=
  match s.kind with
  | .comment => [.text s]
  | .subClassOf => if s.object.isClassType then [] else [.reference s]
  | .supersededBy => [.reference s]
  | _ => []

/-- What a statement demands if its subject is a property. -/
def propertyDemands (s : Statement) : List Demand :=
  match s.kind with
  | .comment => [.text s]
  | .rangeIncludes | .domainIncludes => [.reference s]
  | _ => []

/-- What a statement demands if its subject is an enumeration value. -/
def valueDemands (s : Statement) : List Demand :=
  match s.kind with
  | .comment => [.text s]
  | _ => []

/-- A type that a subject is declared to have is to be a class. -/
def typeDemand (subject type : Iri) : Demand :=
  .reference { subject, predicate := rdfType, object := .entity type }

/-- What the types of an enumeration value demand. -/
def typeDemands (t : Topic) : List Demand :=
  (t.declaredTypes.filter (!·.isMetaType)).map (typeDemand t.subject)

/-- The classes of an ontology in the order of their numbers: the builtin ones and their union, then
    the subjects that describe another class. -/
def knownClasses (ss : List Statement) : List Iri :=
  seedIris (editionOf (topicsOf ss)) ++
    ((classTopics (topicsOf ss)).map Topic.subject).filter
      fun a => a ∉ seedIris (editionOf (topicsOf ss))

/-- All that the statements demand, in the order of the stages. -/
def demands (ss : List Statement) : List Demand :=
  ((classTopics (topicsOf ss)).flatMap fun t => t.statements.flatMap classDemands)
    ++ (knownClasses ss).map .classified
    ++ (((topicsOf ss).filter Topic.isProperty).flatMap fun t =>
      t.statements.flatMap propertyDemands)
    ++ ((topicsOf ss).filter Topic.hasEnumType).flatMap fun t =>
      typeDemands t ++ t.statements.flatMap valueDemands

/-! ## What a reading is refused for -/

/-- The error that refuses a reading. -/
def Reading.error? : Reading → Option CompileError
  | .ok _ => none
  | .error e => some e

section Refuses

variable {edition : Edition} {ss : List Statement} {D : Graph} {α : Type} {rs rs' : List Reading}
  {ds ds' : List Demand} {s : Statement} {c : ClassId}

/-- The first error among the readings answers the first demand that is not met. -/
def Refuses (edition : Edition) (ss : List Statement) (rs : List Reading) (ds : List Demand) :
    Prop :=
  ∀ e, rs.findSome? Reading.error? = some e ↔ First (Demand.Refused edition ss) ds e

theorem Refuses.nil : Refuses edition ss [] [] := fun _ => iff_of_false (by simp) not_first_nil

theorem Refuses.append (h : Refuses edition ss rs ds) (h' : Refuses edition ss rs' ds') :
    Refuses edition ss (rs ++ rs') (ds ++ ds') := by
  intro e
  rw [List.findSome?_append, Option.or_eq_some_iff, first_append_iff, ← h e, ← h' e]
  refine or_congr_right (and_congr_left fun _ => ?_)
  rw [Option.eq_none_iff_forall_ne_some]
  exact forall_congr' fun e' => not_congr (h e')

theorem Refuses.cons_ok (h : Refuses edition ss rs ds) (es : List Edit) :
    Refuses edition ss (.ok es :: rs) ds := h

theorem Refuses.flatMap {xs : List α} {f : α → List Reading} {q : α → List Demand}
    (h : ∀ x ∈ xs, Refuses edition ss (f x) (q x)) :
    Refuses edition ss (xs.flatMap f) (xs.flatMap q) := by
  induction xs with
  | nil => exact Refuses.nil
  | cons x xs ih =>
      rw [List.flatMap_cons, List.flatMap_cons]
      exact (h x List.mem_cons_self).append (ih fun y hy => h y (List.mem_cons_of_mem x hy))

/-- Numbers make no demands. -/
theorem Refuses.flatMap_zipIdx {xs : List α} {n : Nat} {f : α × Nat → List Reading}
    {q : α → List Demand} (h : ∀ x ∈ xs.zipIdx n, Refuses edition ss (f x) (q x.1)) :
    Refuses edition ss ((xs.zipIdx n).flatMap f) (xs.flatMap q) := by
  have hnumbers : xs.flatMap q = (xs.zipIdx n).flatMap fun x => q x.1 := by
    conv_lhs => rw [← List.zipIdx_map_fst n xs]
    rw [List.flatMap_map]
  rw [hnumbers]
  exact Refuses.flatMap h

theorem Refuses.map {xs : List α} {f : α → Reading} {q : α → List Demand}
    (h : ∀ x ∈ xs, Refuses edition ss [f x] (q x)) :
    Refuses edition ss (xs.map f) (xs.flatMap q) := by
  rw [List.map_eq_flatMap]
  exact Refuses.flatMap h

/-- Where no reading is refused, all demands are met. -/
theorem Refuses.forall_ok_iff (h : Refuses edition ss rs ds) :
    (∀ r ∈ rs, r.Ok) ↔ ∀ e, ¬ First (Demand.Refused edition ss) ds e := by
  have hok : ∀ r : Reading, r.Ok ↔ r.error? = none := by
    intro r
    cases r <;> simp [Reading.Ok, Reading.error?]
  have hnone : (∀ r ∈ rs, r.Ok) ↔ rs.findSome? Reading.error? = none := by
    simp only [hok, List.findSome?_eq_none_iff]
  rw [hnone, Option.eq_none_iff_forall_ne_some]
  exact forall_congr' fun e => not_congr (h e)

/-! ## Statements and their demands -/

theorem refused_text_iff {e : CompileError} : Demand.Refused edition ss (.text s) e ↔
    s.object.isLiteral = false ∧ e = .commentNotText s := by
  constructor
  · intro h
    cases h with
    | notText hobject => exact ⟨hobject, rfl⟩
  · rintro ⟨hobject, rfl⟩
    exact .notText hobject

theorem refused_reference_iff {e : CompileError} : Demand.Refused edition ss (.reference s) e ↔
    s.object.iri? = none ∧ e = .notAReference s ∨
      ∃ a, s.object.iri? = some a ∧ ¬ KnownClass edition ss a ∧ e = .unknownClass s := by
  constructor
  · intro h
    cases h with
    | nameless hobject => exact Or.inl ⟨hobject, rfl⟩
    | unknown hobject hmissing => exact Or.inr ⟨_, hobject, hmissing, rfl⟩
  · rintro (⟨hobject, rfl⟩ | ⟨a, hobject, hmissing, rfl⟩)
    · exact .nameless hobject
    · exact .unknown hobject hmissing

theorem refused_classified_iff {a : Iri} {e : CompileError} :
    Demand.Refused edition ss (.classified a) e ↔
      ¬ Classified edition ss a ∧ e = .unclassified a := by
  constructor
  · intro h
    cases h with
    | unclassified hmissing => exact ⟨hmissing, rfl⟩
  · rintro ⟨hmissing, rfl⟩
    exact .unclassified hmissing

theorem Refuses.comment {f : Option String → List Edit} (hkind : s.kind = .comment) :
    Refuses edition ss [s.comment?.map f] [.text s] := by
  intro e
  rw [first_singleton_iff, refused_text_iff, Statement.comment?, if_pos hkind]
  cases s.object <;> simp [Except.map, Reading.error?, Term.isLiteral, eq_comm]

section

variable (hD : ∀ a, a ∈ D.classIris ↔ KnownClass edition ss a)

include hD

theorem Refuses.resolve (f : ClassId → List Edit) (s : Statement) :
    Refuses edition ss [(D.resolve s).map f] [.reference s] := by
  intro e
  rw [first_singleton_iff, refused_reference_iff, Graph.resolve]
  cases s.object.iri? with
  | none => simp [Except.map, Reading.error?, eq_comm]
  | some a =>
      have hfind : (D.find? a).isSome = true ↔ KnownClass edition ss a :=
        Graph.isSome_find?_iff.trans (hD a)
      dsimp only
      cases hlookup : D.find? a <;> rw [hlookup] at hfind <;>
        simp [Except.map, Reading.error?, eq_comm, ← hfind]

theorem Refuses.classStatement (hc : D.find? s.subject = some c) :
    Refuses edition ss [readClassStatement D s] (classDemands s) := by
  rw [readClassStatement, hc, classDemands]
  dsimp only
  cases hkind : s.kind with
  | comment => exact Refuses.comment hkind
  | subClassOf =>
      dsimp only
      split
      · exact Refuses.nil.cons_ok _
      · exact Refuses.resolve hD _ s
  | supersededBy => exact Refuses.resolve hD _ s
  | type =>
      dsimp only
      split
      · exact Refuses.nil.cons_ok _
      · split <;> exact Refuses.nil.cons_ok _
  | _ => exact Refuses.nil.cons_ok _

theorem Refuses.propertyStatement (p : PropertyId) (s : Statement) :
    Refuses edition ss [readPropertyStatement D p s] (propertyDemands s) := by
  rw [readPropertyStatement, propertyDemands]
  cases hkind : s.kind with
  | comment => exact Refuses.comment hkind
  | rangeIncludes => exact Refuses.resolve hD _ s
  | domainIncludes => exact Refuses.resolve hD _ s
  | type =>
      dsimp only
      split <;> exact Refuses.nil.cons_ok _
  | _ => exact Refuses.nil.cons_ok _

theorem Refuses.valueType (v : ValueId) (subject type : Iri) :
    Refuses edition ss [readValueType D v subject type] [typeDemand subject type] := by
  -- the type is looked up like the object of the statement that declares it
  have hresolve := Refuses.resolve hD (fun c => [.addMember c v])
    { subject, predicate := rdfType, object := .entity type }
  rw [Graph.resolve] at hresolve
  dsimp only [Term.iri?] at hresolve
  rw [readValueType]
  cases hfind : D.find? type with
  | none => rwa [hfind] at hresolve
  | some c => rwa [hfind] at hresolve

end

theorem Refuses.valueStatement (v : ValueId) (elsewhere : Bool) (s : Statement) :
    Refuses edition ss [readValueStatement v elsewhere s] (valueDemands s) := by
  rw [readValueStatement, valueDemands]
  cases hkind : s.kind with
  | comment => exact Refuses.comment hkind
  | type => exact Refuses.nil.cons_ok _
  | _ =>
      dsimp only
      split <;> exact Refuses.nil.cons_ok _

end Refuses

/-! ## Stages and their demands -/

section

variable {edition : Edition} {ss : List Statement} {D g : Graph} {a : Iri} {c : ClassId}
  {e : CompileError}

section

variable (hD : ∀ a, a ∈ D.classIris ↔ KnownClass edition ss a)

include hD

theorem refuses_readClasses : Refuses edition ss (readClasses D (topicsOf ss))
    ((classTopics (topicsOf ss)).flatMap fun t => t.statements.flatMap classDemands) := by
  refine Refuses.flatMap fun t ht => Refuses.map fun s hs => ?_
  -- the subject of a topic that describes a class is found
  have hclass := (exists_classTopic_iff.1 ⟨t, ht, hs⟩).2
  obtain ⟨c, hc⟩ := Option.isSome_iff_exists.1
    (Graph.isSome_find?_iff.2 ((hD s.subject).2 (Or.inr hclass)))
  exact Refuses.classStatement hD hc

theorem refuses_readProperties :
    Refuses edition ss (readProperties D (topicsOf ss))
      (((topicsOf ss).filter Topic.isProperty).flatMap fun t =>
        t.statements.flatMap propertyDemands) := by
  refine Refuses.flatMap_zipIdx fun x _ => Refuses.cons_ok ?_ _
  exact Refuses.map fun s _ => Refuses.propertyStatement hD x.2 s

theorem refuses_readValues :
    Refuses edition ss (readValues D (topicsOf ss))
      (((topicsOf ss).filter Topic.hasEnumType).flatMap fun t =>
        typeDemands t ++ t.statements.flatMap valueDemands) := by
  refine Refuses.flatMap_zipIdx fun x _ => Refuses.append (Refuses.cons_ok ?_ _) ?_
  · have hdemands : typeDemands x.1 = (x.1.declaredTypes.filter (!·.isMetaType)).flatMap
        fun type => [typeDemand x.1.subject type] := List.map_eq_flatMap
    rw [hdemands]
    exact Refuses.map fun type _ => Refuses.valueType hD x.2 x.1.subject type
  · exact Refuses.map fun s _ => Refuses.valueStatement x.2 _ s

end

/-! ## Classes that are not classified -/

/-- The classes of the declared graph have the numbers that their order gives them. -/
theorem classIris_foldl_declareTopic (ts : List Topic) :
    ∀ g, Declares edition ss g → (∀ t ∈ ts, t = topicAbout ss t.subject) →
      (ts.map Topic.subject).Nodup → (ts.foldl declareTopic g).classIris =
        g.classIris ++ (ts.map Topic.subject).filter fun a => a ∉ g.classIris := by
  induction ts with
  | nil => exact fun g _ _ _ => (List.append_nil _).symm
  | cons t ts ih =>
      intro g hg hts hnodup
      obtain ⟨ht, hnodup⟩ := List.nodup_cons.1 hnodup
      have htopic := hts t List.mem_cons_self
      have hrest := fun t' ht' => hts t' (List.mem_cons_of_mem t ht')
      rw [List.foldl_cons, List.map_cons, List.filter_cons, hg.declareTopic_eq htopic]
      by_cases hmem : t.subject ∈ g.classIris
      · rw [if_pos hmem, if_neg (by simp [hmem]), ih g hg hrest hnodup]
      · have hnew : (ts.map Topic.subject).filter (fun a => a ∉
            (g.declare (declaredEntry edition ss t.subject)).classIris) =
            (ts.map Topic.subject).filter fun a => a ∉ g.classIris := by
          refine List.filter_congr fun a ha => ?_
          have hne : a ≠ t.subject := fun heq => ht (heq ▸ ha)
          rw [Graph.classIris_declare, iri_declaredEntry]
          simp [hne]
        rw [if_neg hmem, if_pos (by simp [hmem]), ih _ (hg.declare hmem) hrest hnodup, hnew,
          Graph.classIris_declare, iri_declaredEntry, List.append_assoc]
        rfl

theorem classIris_declaredGraph (ss : List Statement) :
    (declaredGraph (topicsOf ss)).classIris = knownClasses ss := by
  have hnodup : ((classTopics (topicsOf ss)).map Topic.subject).Nodup := by
    rw [classTopics, map_subject_filter_topicsOf]
    exact (nodup_subjects ss).filter _
  rw [declaredGraph, classIris_foldl_declareTopic _ _ (declares_seedGraph _ ss)
    (fun _ ht => mem_classTopics ht) hnodup, classIris_seedGraph, knownClasses]

theorem marked_iff (hp : Portrays edition ss g) (hc : c ∈ g.ids) :
    (g.entry c).marked = true ↔ Marked edition ss (g.iri c) := by
  rw [hp.marked c hc, kind_declaredEntry_ne_ordinary, Marked, or_assoc]
  exact or_congr_right or_comm

/-- Steps to superclasses that are said are steps of the graph. -/
theorem isClassified_iff_classified (hp : Portrays edition ss g)
    (hknown : ∀ a b, SaysBelow ss a b → KnownClass edition ss b) (hc : c ∈ g.ids) :
    g.isClassified c = true ↔ Classified edition ss (g.iri c) := by
  rw [Graph.isClassified_iff hp.inRange hc]
  constructor
  · rintro ⟨d, hd, hmarked⟩
    have hids := hp.inRange.mem_ids_of_above hc hd
    exact ⟨g.iri d, (hp.above_iff hknown hc).2 ⟨d, hids, hd, rfl⟩, (marked_iff hp hids).1 hmarked⟩
  · rintro ⟨b, hb, hmarked⟩
    obtain ⟨d, hids, hd, rfl⟩ := (hp.above_iff hknown hc).1 hb
    exact ⟨d, hd, (marked_iff hp hids).2 hmarked⟩

/-- The first class that is not classified is reported. -/
theorem validate_eq_error_iff
    (h : ∀ c ∈ g.ids, g.isClassified c = true ↔ Classified edition ss (g.iri c)) :
    g.validate = .error e ↔ First (Demand.Refused edition ss) (g.classIris.map .classified) e := by
  have hfirst : ∀ cs : List ClassId, (∀ c ∈ cs, c ∈ g.ids) →
      ((cs.find? fun c => !g.isClassified c).map (fun c => .unclassified (g.iri c)) = some e ↔
        First (Demand.Refused edition ss) (cs.map fun c => .classified (g.iri c)) e) := by
    intro cs
    induction cs with
    | nil => exact fun _ => iff_of_false (by simp) not_first_nil
    | cons c cs ih =>
        intro hcs
        have hc := h c (hcs c List.mem_cons_self)
        have hrest := ih fun d hd => hcs d (List.mem_cons_of_mem c hd)
        rw [List.map_cons, first_cons_iff, List.find?_cons, ← hrest]
        simp only [refused_classified_iff, ← hc]
        cases g.isClassified c <;> simp [eq_comm]
  have hvalidate : g.validate = .error e ↔ (g.ids.find? fun c => !g.isClassified c).map
      (fun c => .unclassified (g.iri c)) = some e := by
    rw [Graph.validate]
    cases g.ids.find? fun c => !g.isClassified c <;> simp
  rw [hvalidate, hfirst g.ids fun _ hc => hc, ← Graph.map_iri_ids, List.map_map]
  rfl

end

end Ontotype

import Ontotype.Proofs.Rdf.Topics
import Mathlib.Data.List.Basic
import Mathlib.Data.List.Induction

set_option autoImplicit false

/-! # Topics are the parts of a stable partition

The topics of a list of statements can be collected in one pass, with a sheet for each subject and
an index of the sheets: the sheets that a pass leaves are the topics with their declared types
(`sheets_collect`). Each subject has one topic, in the order in which subjects first appear, and
types are listed in the order in which they are first declared (`FirstAppearances`). To group what
is grouped already changes nothing (`topicsOf_flatMap`). -/

namespace Ontotype

open Vocabulary

/-! ## First appearances -/

section

variable {α : Type} [BEq α] {xs : List α}

/-- The elements of `xs`, each once, in the order in which they first appear. -/
structure FirstAppearances (xs ys : List α) : Prop where
  nodup : ys.Nodup
  mem_iff : ∀ a, a ∈ ys ↔ a ∈ xs
  ordered : ys.Pairwise fun a b => xs.idxOf a < xs.idxOf b

/-- There is one list of first appearances. -/
theorem FirstAppearances.unique {ys zs : List α} (h : FirstAppearances xs ys)
    (h' : FirstAppearances xs zs) : ys = zs :=
  eq_of_strict_order Nat.lt_asymm h.ordered h'.ordered fun a =>
    (h.mem_iff a).trans (h'.mem_iff a).symm

variable [LawfulBEq α]

theorem firstAppearances_eraseDups (xs : List α) : FirstAppearances xs xs.eraseDups := by
  refine ⟨nodup_eraseDups xs, fun a => List.mem_eraseDups, ?_⟩
  induction xs using List.reverseRecOn with
  | nil => exact List.Pairwise.nil
  | append_singleton xs x ih =>
      have hold : xs.eraseDups.Pairwise fun a b => (xs ++ [x]).idxOf a < (xs ++ [x]).idxOf b := by
        refine ih.imp_of_mem fun {a b} ha hb hlt => ?_
        rw [List.mem_eraseDups] at ha hb
        rwa [List.idxOf_append_of_mem ha, List.idxOf_append_of_mem hb]
      by_cases hx : x ∈ xs
      · rwa [eraseDups_concat_of_mem hx]
      · rw [eraseDups_concat_of_not_mem hx]
        refine List.pairwise_append.2 ⟨hold, List.pairwise_singleton _ _, fun a ha b hb => ?_⟩
        rw [List.mem_eraseDups] at ha
        rw [List.mem_singleton.1 hb, List.idxOf_append_of_mem ha, List.idxOf_append_of_notMem hx]
        exact Nat.lt_add_right _ (List.idxOf_lt_length_of_mem ha)

end

/-! ## One pass -/

variable {ss : List Statement} {as : List Iri} {a : Iri} {s : Statement}

/-- What is written down about a subject: its statements so far, and the types that they declare. -/
structure Sheet where
  subject : Iri
  statements : List Statement
  types : List Iri
  deriving DecidableEq, Repr

/-- The sheet of a topic. -/
def Sheet.of (t : Topic) : Sheet := ⟨t.subject, t.statements, t.declaredTypes⟩

/-- Writes down a statement. A type is written down once. -/
def Sheet.enter (sheet : Sheet) (s : Statement) : Sheet :=
  { sheet with
    statements := sheet.statements ++ [s]
    types := match s.declaredType? with
      | some b => if b ∈ sheet.types then sheet.types else sheet.types ++ [b]
      | none => sheet.types }

/-- The sheets so far, and for each subject the place of its sheet. -/
structure Ledger where
  sheets : List Sheet
  index : List (Iri × Nat)

namespace Ledger

/-- The place of the sheet of a subject, which is opened at the end if there is none. -/
def locate (l : Ledger) (a : Iri) : Nat × Ledger :=
  match l.index.lookup a with
  | some n => (n, l)
  | none =>
    (l.sheets.length,
      { sheets := l.sheets ++ [⟨a, [], []⟩], index := (a, l.sheets.length) :: l.index })

/-- Writes down a statement on the sheet at a place. -/
def enterAt (l : Ledger) (n : Nat) (s : Statement) : Ledger :=
  { l with sheets := l.sheets.modify n (·.enter s) }

/-- Writes down a statement on the sheet of its subject. -/
def enter (l : Ledger) (s : Statement) : Ledger :=
  (l.locate s.subject).2.enterAt (l.locate s.subject).1 s

/-- Writes down statements one after the other. -/
def collect (ss : List Statement) : Ledger := ss.foldl enter ⟨[], []⟩

end Ledger

theorem Sheet.enter_of (t : Topic) (s : Statement) :
    (Sheet.of t).enter s = .of { t with statements := t.statements ++ [s] } := by
  rw [Sheet.of, Sheet.of, Sheet.enter, Topic.declaredTypes, Topic.declaredTypes,
    List.filterMap_append]
  cases htype : s.declaredType? with
  | none => rw [List.filterMap_cons_none htype, List.filterMap_nil, List.append_nil]
  | some b =>
      rw [List.filterMap_cons_some htype, List.filterMap_nil]
      by_cases hb : b ∈ t.statements.filterMap Statement.declaredType?
      · rw [eraseDups_concat_of_mem hb]
        simp [hb]
      · rw [eraseDups_concat_of_not_mem hb]
        simp [hb]

theorem topicAbout_concat_self (ss : List Statement) (s : Statement) :
    topicAbout (ss ++ [s]) s.subject = { topicAbout ss s.subject with
      statements := (topicAbout ss s.subject).statements ++ [s] } := by
  simp [topicAbout, List.filter_append]

theorem topicAbout_concat_of_ne (h : a ≠ s.subject) :
    topicAbout (ss ++ [s]) a = topicAbout ss a := by
  simp [topicAbout, List.filter_append, h.symm]

/-- To change the element at the place of `a` is to change what stands for `a`. -/
theorem modify_idxOf_map {β : Type} {f : Iri → β} {g : β → β} (hnodup : as.Nodup) (ha : a ∈ as) :
    (as.map f).modify (as.idxOf a) g = as.map fun b => if b = a then g (f b) else f b := by
  induction as with
  | nil => exact absurd ha List.not_mem_nil
  | cons b as ih =>
      obtain ⟨hb, hnodup⟩ := List.nodup_cons.1 hnodup
      by_cases hba : b = a
      · subst hba
        rw [List.idxOf_cons_self, List.map_cons, List.modify_zero_cons, List.map_cons, if_pos rfl]
        refine congrArg _ (List.map_congr_left fun c hc => ?_)
        exact (if_neg (by rintro rfl; exact hb hc)).symm
      · rw [List.idxOf_cons_ne _ hba, List.map_cons, List.modify_succ_cons, List.map_cons,
          if_neg hba, ih hnodup ((List.mem_cons.1 ha).resolve_left (Ne.symm hba))]

namespace Ledger

/-- A ledger has the sheets of these subjects, as far as these statements go. -/
structure Lists (l : Ledger) (as : List Iri) (ss : List Statement) : Prop where
  nodup : as.Nodup
  known : ∀ s ∈ ss, s.subject ∈ as
  sheets : l.sheets = as.map fun a => .of (topicAbout ss a)
  place : ∀ a ∈ as, l.index.lookup a = some (as.idxOf a)
  no_place : ∀ a ∉ as, l.index.lookup a = none

namespace Lists

variable {l : Ledger}

theorem locate_of_mem (h : l.Lists as ss) (ha : a ∈ as) : l.locate a = (as.idxOf a, l) := by
  rw [locate, h.place a ha]

/-- A new sheet is empty, as no statement about its subject has been written down. -/
theorem locate_of_not_mem (h : l.Lists as ss) (ha : a ∉ as) :
    (l.locate a).1 = (as ++ [a]).idxOf a ∧ (l.locate a).2.Lists (as ++ [a]) ss := by
  have hlength : l.sheets.length = as.length := by rw [h.sheets, List.length_map]
  have hplace : (as ++ [a]).idxOf a = as.length := by
    rw [List.idxOf_append_of_notMem ha, List.idxOf_cons_self, Nat.add_zero]
  have hempty : topicAbout ss a = ⟨a, []⟩ := by
    refine congrArg (Topic.mk a) (List.filter_eq_nil_iff.2 fun s hs => ?_)
    rw [decide_eq_true_iff]
    exact fun hsubject => ha (hsubject ▸ h.known s hs)
  rw [locate, h.no_place a ha]
  refine ⟨hlength.trans hplace.symm, ?_, ?_, ?_, ?_, ?_⟩
  · exact (List.perm_append_singleton a as).nodup_iff.2 (List.nodup_cons.2 ⟨ha, h.nodup⟩)
  · exact fun s hs => List.mem_append_left [a] (h.known s hs)
  · rw [List.map_append, List.map_singleton, hempty, ← h.sheets]
    rfl
  · intro b hb
    by_cases hba : b = a
    · subst hba
      rw [List.lookup_cons_self, hlength, hplace]
    · have hmem : b ∈ as := by simpa [hba] using hb
      rw [List.lookup_cons, beq_eq_false_iff_ne.2 hba, List.idxOf_append_of_mem hmem]
      exact h.place b hmem
  · intro b hb
    simp only [List.mem_append, List.mem_singleton, not_or] at hb
    rw [List.lookup_cons, beq_eq_false_iff_ne.2 hb.2]
    exact h.no_place b hb.1

theorem enterAt (h : l.Lists as ss) (hs : s.subject ∈ as) :
    (l.enterAt (as.idxOf s.subject) s).Lists as (ss ++ [s]) := by
  refine ⟨h.nodup, ?_, ?_, h.place, h.no_place⟩
  · intro s' hs'
    rcases List.mem_append.1 hs' with hs' | hs'
    · exact h.known s' hs'
    · rwa [List.mem_singleton.1 hs']
  · show l.sheets.modify _ _ = _
    rw [h.sheets, modify_idxOf_map h.nodup hs]
    refine List.map_congr_left fun a _ => ?_
    split
    · next ha => rw [ha, Sheet.enter_of, topicAbout_concat_self]
    · next ha => rw [topicAbout_concat_of_ne ha]

/-- What a statement does to a ledger. -/
theorem enter (h : l.Lists (subjects ss) ss) (s : Statement) :
    (l.enter s).Lists (subjects (ss ++ [s])) (ss ++ [s]) := by
  by_cases hs : s.subject ∈ subjects ss
  · have hsubjects : subjects (ss ++ [s]) = subjects ss := by
      rw [subjects, List.map_append]
      exact eraseDups_concat_of_mem (List.mem_eraseDups.1 hs)
    rw [hsubjects, Ledger.enter, h.locate_of_mem hs]
    exact h.enterAt hs
  · have hsubjects : subjects (ss ++ [s]) = subjects ss ++ [s.subject] := by
      rw [subjects, List.map_append]
      exact eraseDups_concat_of_not_mem fun hmem => hs (List.mem_eraseDups.2 hmem)
    obtain ⟨hplace, hopened⟩ := h.locate_of_not_mem hs
    rw [hsubjects, Ledger.enter, hplace]
    exact hopened.enterAt (List.mem_append_right _ List.mem_cons_self)

end Lists

theorem collect_lists (ss : List Statement) : (collect ss).Lists (subjects ss) ss := by
  induction ss using List.reverseRecOn with
  | nil => exact ⟨List.nodup_nil, by simp, rfl, by simp [subjects], fun a _ => rfl⟩
  | append_singleton ss s ih =>
      rw [collect, List.foldl_append]
      exact ih.enter s

/-- The sheets that a pass leaves are those of the topics. -/
theorem sheets_collect (ss : List Statement) :
    (collect ss).sheets = (topicsOf ss).map Sheet.of := by
  rw [(collect_lists ss).sheets, topicsOf_eq_map, List.map_map]
  rfl

end Ledger

/-! ## Grouping again -/

/-- Statements about a subject that come before all others are its topic, and the first. -/
theorem topicsOf_append {t : Topic} {rest : List Statement} (hne : t.statements ≠ [])
    (hmine : ∀ s ∈ t.statements, s.subject = t.subject)
    (hrest : ∀ s ∈ rest, s.subject ≠ t.subject) :
    topicsOf (t.statements ++ rest) = t :: topicsOf rest := by
  have hsubjects : subjects (t.statements ++ rest) = t.subject :: subjects rest := by
    obtain ⟨s, block, hblock⟩ := List.exists_cons_of_ne_nil hne
    rw [hblock, List.forall_mem_cons] at hmine
    have hmine' : (block.map Statement.subject).filter (!· == t.subject) = [] := by
      refine List.filter_eq_nil_iff.2 (List.forall_mem_map.2 fun s hs => ?_)
      simp [hmine.2 s hs]
    have hrest' : (rest.map Statement.subject).filter (!· == t.subject) =
        rest.map Statement.subject := by
      refine List.filter_eq_self.2 (List.forall_mem_map.2 fun s hs => ?_)
      simpa using hrest s hs
    rw [subjects, hblock, List.cons_append, List.map_cons, List.eraseDups_cons, hmine.1,
      List.map_append, List.filter_append, hmine', hrest', List.nil_append, subjects]
  have hfirst : topicAbout (t.statements ++ rest) t.subject = t := by
    have hnone : rest.filter (·.subject = t.subject) = [] :=
      List.filter_eq_nil_iff.2 fun s hs => by simpa using hrest s hs
    have hall : t.statements.filter (·.subject = t.subject) = t.statements :=
      List.filter_eq_self.2 fun s hs => by simpa using hmine s hs
    rw [topicAbout, List.filter_append, hall, hnone, List.append_nil]
  have hothers : ∀ a ∈ subjects rest, topicAbout (t.statements ++ rest) a = topicAbout rest a := by
    intro a ha
    obtain ⟨s, hs, rfl⟩ := mem_subjects.1 ha
    have hnone : t.statements.filter (·.subject = s.subject) = [] :=
      List.filter_eq_nil_iff.2 fun s' hs' => by
        simpa [hmine s' hs'] using (hrest s hs).symm
    rw [topicAbout, List.filter_append, hnone, List.nil_append, topicAbout]
  rw [topicsOf_eq_map, hsubjects, List.map_cons, hfirst, List.map_congr_left hothers,
    topicsOf_eq_map]

/-- Topics about different subjects, each with a statement and with statements about its subject
    only, are what the grouping of their statements gives. -/
theorem topicsOf_flatMap {ts : List Topic} (hsubjects : (ts.map Topic.subject).Nodup)
    (hts : ∀ t ∈ ts, t.statements ≠ [] ∧ ∀ s ∈ t.statements, s.subject = t.subject) :
    topicsOf (ts.flatMap Topic.statements) = ts := by
  induction ts with
  | nil => rfl
  | cons t ts ih =>
      rw [List.map_cons, List.nodup_cons] at hsubjects
      obtain ⟨⟨hne, hmine⟩, hts⟩ := List.forall_mem_cons.1 hts
      have hrest : ∀ s ∈ ts.flatMap Topic.statements, s.subject ≠ t.subject := by
        intro s hs hsubject
        obtain ⟨t', ht', hs'⟩ := List.mem_flatMap.1 hs
        rw [(hts t' ht').2 s hs'] at hsubject
        exact hsubjects.1 (List.mem_map.2 ⟨t', ht', hsubject⟩)
      rw [List.flatMap_cons, topicsOf_append hne hmine hrest, ih hsubjects.2 hts]

theorem topicsOf_topicsOf (ss : List Statement) :
    topicsOf ((topicsOf ss).flatMap Topic.statements) = topicsOf ss := by
  refine topicsOf_flatMap ?_ fun t ht => ?_
  · rw [map_subject_topicsOf]
    exact nodup_subjects ss
  · obtain ⟨hsubject, heq⟩ := mem_topicsOf.1 ht
    obtain ⟨s, hs, hs'⟩ := mem_subjects.1 hsubject
    rw [heq]
    exact ⟨List.ne_nil_of_mem (mem_statements_topicAbout.2 ⟨hs, hs'⟩),
      fun s hs => (mem_statements_topicAbout.1 hs).2⟩

/-! ## A stable partition -/

/-- Statements are parted by their subjects: subjects stand in the order in which they first appear,
    a part has all statements about its subject as they stood, and the types that these declare are
    listed in the order in which their objects first name them. -/
structure Partitions (ss : List Statement) (ts : List Topic) : Prop where
  ordered : FirstAppearances (ss.map Statement.subject) (ts.map Topic.subject)
  statements : ∀ t ∈ ts, t.statements = ss.filter (·.subject = t.subject)
  complete : (ts.flatMap Topic.statements).Perm ss
  types : ∀ t ∈ ts, FirstAppearances
    ((t.statements.filter (·.predicate = rdfType)).filterMap (·.object.iri?)) t.declaredTypes

theorem Statement.kind_eq_type_iff (s : Statement) : s.kind = .type ↔ s.predicate = rdfType := by
  rw [Statement.kind, Predicate.ofIri]
  constructor
  · intro h
    split_ifs at h with _ _ htype
    exact htype
  · intro h
    rw [h]
    decide +kernel

theorem filterMap_declaredType? (ss : List Statement) :
    ss.filterMap Statement.declaredType? =
      (ss.filter (·.predicate = rdfType)).filterMap (·.object.iri?) := by
  rw [List.filterMap_filter]
  refine List.filterMap_congr fun s _ => ?_
  have hkind := s.kind_eq_type_iff
  by_cases h : s.predicate = rdfType
  · rw [Statement.declaredType?, if_pos (hkind.2 h)]
    simp [h]
  · rw [Statement.declaredType?, if_neg (mt hkind.1 h)]
    simp [h]

theorem partitions_topicsOf (ss : List Statement) : Partitions ss (topicsOf ss) where
  ordered := by
    rw [map_subject_topicsOf]
    exact firstAppearances_eraseDups _
  statements t ht := by
    rw [(mem_topicsOf.1 ht).2]
    rfl
  complete := by
    have hperm := flatMap_statements_perm ss fun _ => true
    rwa [List.filter_true, List.filter_true] at hperm
  types t _ := by
    rw [← filterMap_declaredType?]
    exact firstAppearances_eraseDups _

/-- There is one such partition. -/
theorem Partitions.eq_topicsOf {ts : List Topic} (h : Partitions ss ts) : ts = topicsOf ss := by
  have hsubjects : ts.map Topic.subject = subjects ss :=
    h.ordered.unique (firstAppearances_eraseDups _)
  have htopics : ∀ t ∈ ts, topicAbout ss t.subject = t := by
    intro t ht
    rw [topicAbout, ← h.statements t ht]
  rw [topicsOf_eq_map, ← hsubjects, List.map_map]
  exact (List.map_id' ts).symm.trans (List.map_congr_left fun t ht => (htopics t ht).symm)

/-- **Topics are a stable partition.** They part the statements by subject, and nothing else does;
    one pass over the statements collects them with their types; and the statements in the order of
    the topics have the same topics. -/
theorem topics_partition (ss : List Statement) :
    (∀ ts, Partitions ss ts ↔ ts = topicsOf ss) ∧
      (Ledger.collect ss).sheets = (topicsOf ss).map Sheet.of ∧
      topicsOf ((topicsOf ss).flatMap Topic.statements) = topicsOf ss := by
  refine ⟨fun ts => ⟨Partitions.eq_topicsOf, ?_⟩, Ledger.sheets_collect ss, topicsOf_topicsOf ss⟩
  rintro rfl
  exact partitions_topicsOf ss

/-- Statements about two subjects by turns. One type is named twice, once by a compact reference,
    and two objects name no type. -/
def mixedStatements : List Statement :=
  [⟨⟨"https://schema.org/Fall"⟩, rdfType, .entity rdfsClass⟩,
    ⟨⟨"https://schema.org/name"⟩, rdfType, .compact "rdf" "Property"⟩,
    ⟨⟨"https://schema.org/Fall"⟩, rdfType, .literal "Class" none⟩,
    ⟨⟨"https://schema.org/Fall"⟩, rdfType, .compact "schema" "Season"⟩,
    ⟨⟨"https://schema.org/name"⟩, rdfsComment, .literal "A name." none⟩,
    ⟨⟨"https://schema.org/Fall"⟩, rdfType, .compact "rdfs" "Class"⟩,
    ⟨⟨"https://schema.org/Fall"⟩, rdfType, .compact "ex" "Season"⟩]

/-- The sheets of the two. -/
def mixedSheets : List Sheet :=
  [⟨⟨"https://schema.org/Fall"⟩,
      [⟨⟨"https://schema.org/Fall"⟩, rdfType, .entity rdfsClass⟩,
        ⟨⟨"https://schema.org/Fall"⟩, rdfType, .literal "Class" none⟩,
        ⟨⟨"https://schema.org/Fall"⟩, rdfType, .compact "schema" "Season"⟩,
        ⟨⟨"https://schema.org/Fall"⟩, rdfType, .compact "rdfs" "Class"⟩,
        ⟨⟨"https://schema.org/Fall"⟩, rdfType, .compact "ex" "Season"⟩],
      [rdfsClass, ⟨"https://schema.org/Season"⟩]⟩,
    ⟨⟨"https://schema.org/name"⟩,
      [⟨⟨"https://schema.org/name"⟩, rdfType, .compact "rdf" "Property"⟩,
        ⟨⟨"https://schema.org/name"⟩, rdfsComment, .literal "A name." none⟩],
      [rdfProperty]⟩]

theorem topics_partition_mixedStatements :
    (Ledger.collect mixedStatements).sheets = mixedSheets ∧
      Partitions mixedStatements (topicsOf mixedStatements) ∧
      topicsOf (mixedSheets.flatMap Sheet.statements) = topicsOf mixedStatements := by
  obtain ⟨hparts, hcollect, hagain⟩ := topics_partition mixedStatements
  have hsheets : (topicsOf mixedStatements).map Sheet.of = mixedSheets := by decide +kernel
  have hstatements : mixedSheets.flatMap Sheet.statements =
      (topicsOf mixedStatements).flatMap Topic.statements := by
    rw [← hsheets, List.flatMap_map]
    rfl
  rw [hstatements]
  exact ⟨hcollect.trans hsheets, (hparts _).2 rfl, hagain⟩

end Ontotype

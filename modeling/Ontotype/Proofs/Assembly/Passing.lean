import Ontotype.Proofs.Assembly.Calls
import Ontotype.Proofs.Assembly.Stages

set_option autoImplicit false

/-! # The graphs that an assembly passes through

An assembly changes its graph one call at a time: it declares classes, links them, and binds
properties and enumeration values, up to the end or to the first error. All of it is one allowed run
of calls, so every graph on the way is sound, the one that is left behind by an error among them
(`sound_throughout`), and from the first of them on there is one union, of the builtin classes. -/

namespace Ontotype

open Vocabulary

variable {edition : Edition} {ss : List Statement} {topics : List Topic} {D g : Graph} {b : Build}

/-! ## Passing through graphs -/

/-- A stage that starts from `b` passes through the graph: this is what some of the edits before
    the first error leave. -/
def Build.Passes (b : Build) (rs : List Reading) (g : Graph) : Prop :=
  ∃ es, es <+: (editsOf rs).1 ∧ (es.foldl Build.apply b).graph = g

/-- A stage leaves one of the graphs that it passes through, whether it is stopped or not. -/
theorem Build.passes_run (b : Build) (rs : List Reading) : b.Passes rs (b.run rs).build.graph :=
  ⟨_, List.prefix_rfl, rfl⟩

/-- The assembly of the topics passes through a graph. -/
inductive Passes (topics : List Topic) : Graph → Prop
  | declaring {ts : List Topic} (hts : ts <+: classTopics topics) :
      Passes topics (ts.foldl declareTopic (seedGraph (editionOf topics)))
  | linking {g : Graph}
      (hg : (Build.start topics).Passes (readClasses (declaredGraph topics) topics) g) :
      Passes topics g
  | bindingProperties {b : Build} {g : Graph}
      (hb : ((Build.start topics).linkClasses topics).toExcept = .ok b)
      (hvalid : b.graph.validate = .ok ())
      (hg : b.Passes (readProperties b.graph topics) g) : Passes topics g
  | bindingValues {b b' : Build} {g : Graph}
      (hb : ((Build.start topics).linkClasses topics).toExcept = .ok b)
      (hvalid : b.graph.validate = .ok ())
      (hb' : (b.bindProperties topics).toExcept = .ok b')
      (hg : b'.Passes (readValues b'.graph topics) g) : Passes topics g

/-! ## Declaring classes by calls -/

/-- The calls that add the builtin classes and their union. -/
def seedCalls (edition : Edition) : List Call :=
  builtins.map (fun b => .insert (.builtin (edition.term b.1) (.primitive b.2)))
    ++ [.insert (.ofKind (edition.term "DataType") .dataTypeUnion)]
    ++ (List.range builtins.length).map (.addUnionMember unionId)

theorem calls_seedCalls (edition : Edition) :
    Graph.empty.calls (seedCalls edition) = seedGraph edition := by
  cases edition <;> rfl

theorem allows_seedCalls (edition : Edition) : Graph.empty.Allows (seedCalls edition) := by
  cases edition <;> decide +kernel

/-- The calls that add the class that a topic describes. -/
def topicCalls (g : Graph) (t : Topic) : List Call :=
  match g.find? t.subject with
  | some _ => []
  | none =>
    if t.isDataType then
      let e : ClassEntry := .builtin t.subject (.primitive .string)
      [.insert e, .addUnionMember unionId (g.insert e).2]
    else [.insert (.ofKind t.subject .ordinary)]

/-- The calls that add the classes that topics describe. -/
def topicsCalls (g : Graph) : List Topic → List Call
  | [] => []
  | t :: ts => topicCalls g t ++ topicsCalls (declareTopic g t) ts

theorem calls_topicCalls (g : Graph) (t : Topic) : g.calls (topicCalls g t) = declareTopic g t := by
  rw [topicCalls, declareTopic]
  cases g.find? t.subject with
  | some c => rfl
  | none =>
      dsimp only
      split <;> rfl

theorem allows_topicCalls (hunion : unionId ∈ g.ids) (t : Topic) : g.Allows (topicCalls g t) := by
  rw [topicCalls]
  cases g.find? t.subject with
  | some c => exact trivial
  | none =>
      dsimp only
      split
      · exact ⟨trivial, ⟨Graph.mem_ids_call (.insert _) hunion, g.snd_insert_mem_ids _⟩, trivial⟩
      · exact ⟨trivial, trivial⟩

theorem calls_topicsCalls (ts : List Topic) :
    ∀ g : Graph, g.calls (topicsCalls g ts) = ts.foldl declareTopic g := by
  induction ts with
  | nil => exact fun g => rfl
  | cons t ts ih =>
      intro g
      rw [topicsCalls, Graph.calls_append, calls_topicCalls, ih, List.foldl_cons]

theorem topicsCalls_append (ts ts' : List Topic) : ∀ g : Graph,
    topicsCalls g (ts ++ ts') = topicsCalls g ts ++ topicsCalls (ts.foldl declareTopic g) ts' := by
  induction ts with
  | nil => exact fun g => rfl
  | cons t ts ih =>
      intro g
      rw [List.cons_append, topicsCalls, ih, topicsCalls, List.append_assoc, List.foldl_cons]

theorem allows_topicsCalls (ts : List Topic) :
    ∀ {g : Graph}, unionId ∈ g.ids → g.Allows (topicsCalls g ts) := by
  induction ts with
  | nil => exact fun _ => trivial
  | cons t ts ih =>
      intro g hunion
      have ht := allows_topicCalls hunion t
      refine (Graph.allows_append _ _ g).2 ⟨ht, ?_⟩
      rw [calls_topicCalls]
      refine ih ?_
      rw [← calls_topicCalls]
      exact ht.preserves (P := fun h => unionId ∈ h.ids)
        (fun _ k _ hc => Graph.mem_ids_call k hc) hunion

/-! ## One run of calls -/

/-- The calls of an assembly of the topics that is not stopped. -/
def assemblyCalls (topics : List Topic) : List Call :=
  seedCalls (editionOf topics)
    ++ topicsCalls (seedGraph (editionOf topics)) (classTopics topics)
    ++ (allEdits (declaredGraph topics) topics).map .edit

theorem calls_declaring (topics ts : List Topic) : Graph.empty.calls (seedCalls (editionOf topics)
    ++ topicsCalls (seedGraph (editionOf topics)) ts) =
      ts.foldl declareTopic (seedGraph (editionOf topics)) := by
  rw [Graph.calls_append, calls_seedCalls, calls_topicsCalls]

theorem allows_assemblyCalls (ss : List Statement) :
    Graph.empty.Allows (assemblyCalls (topicsOf ss)) := by
  have hD := declares_declaredGraph ss
  have hseed := (declares_seedGraph (editionOf (topicsOf ss)) ss).union.1
  rw [assemblyCalls, Graph.allows_append, Graph.allows_append, calls_seedCalls, calls_declaring,
    Graph.allows_map_edit]
  exact ⟨⟨allows_seedCalls _, allows_topicsCalls _ hseed⟩,
    accepts_allEdits hD.properties_eq hD.values_eq _⟩

/-- The edits before the first error are the first of those that the readings ask for. -/
theorem isPrefix_editsOf (rs : List Reading) : (editsOf rs).1 <+: rs.flatMap Reading.edits := by
  induction rs with
  | nil => exact List.prefix_rfl
  | cons r rs ih =>
      cases r with
      | error e => exact List.nil_prefix
      | ok es =>
          rw [editsOf_cons_ok, List.flatMap_cons]
          exact (List.prefix_append_right_inj es).2 ih

theorem Build.Passes.exists_edits {rs : List Reading} (h : b.Passes rs g) :
    ∃ es, es <+: rs.flatMap Reading.edits ∧ b.graph.edits es = g := by
  obtain ⟨es, hes, rfl⟩ := h
  exact ⟨es, hes.trans (isPrefix_editsOf rs), (Build.graph_foldl es b).symm⟩

theorem graph_of_run {b' : Build} {rs : List Reading} (h : (b.run rs).toExcept = .ok b') :
    b'.graph = b.graph.edits (rs.flatMap Reading.edits) := by
  obtain ⟨_, rfl⟩ := run_eq_ok_iff.1 h
  exact Build.graph_foldl _ b

/-- Past the declarations, an assembly has made the first of its edits. -/
theorem Passes.declared_or_edited (h : Passes (topicsOf ss) g)
    (hdeclared : D = declaredGraph (topicsOf ss)) :
    (∃ ts, ts <+: classTopics (topicsOf ss) ∧
        ts.foldl declareTopic (seedGraph (editionOf (topicsOf ss))) = g) ∨
      ∃ es, es <+: allEdits D (topicsOf ss) ∧ D.edits es = g := by
  have hD : Declares (editionOf (topicsOf ss)) ss D := hdeclared ▸ declares_declaredGraph ss
  have hlinked : ∀ {b : Build}, ((Build.start (topicsOf ss)).linkClasses (topicsOf ss)).toExcept =
      .ok b → b.graph = D.edits (stageEdits D (topicsOf ss) .classes) :=
    fun hb => hdeclared ▸ graph_of_run hb
  have hread := readProperties_classes hD.properties_eq hD.values_eq (topicsOf ss)
  cases h with
  | declaring hts => exact Or.inl ⟨_, hts, rfl⟩
  | linking hg =>
      obtain ⟨es, hes, rfl⟩ := hg.exists_edits
      rw [← hdeclared] at hes
      refine Or.inr ⟨es, hes.trans ?_, by rw [hdeclared]; rfl⟩
      exact (List.prefix_append _ _).trans (List.prefix_append _ _)
  | bindingProperties hb _ hg =>
      obtain ⟨es, hes, rfl⟩ := hg.exists_edits
      rw [hlinked hb, hread] at hes
      refine Or.inr ⟨stageEdits D (topicsOf ss) .classes ++ es, ?_, ?_⟩
      · exact ((List.prefix_append_right_inj _).2 hes).trans (List.prefix_append _ _)
      · rw [Graph.edits_append, hlinked hb]
  | bindingValues hb _ hb' hg =>
      obtain ⟨es, hes, rfl⟩ := hg.exists_edits
      have hbound := graph_of_run hb'
      rw [hlinked hb, hread] at hbound
      rw [hbound] at hes ⊢
      rw [show (readProperties D (topicsOf ss)).flatMap Reading.edits =
        stageEdits D (topicsOf ss) .properties from rfl,
        readValues_properties hD.properties_eq hD.values_eq] at hes
      refine Or.inr ⟨stageEdits D (topicsOf ss) .classes
        ++ stageEdits D (topicsOf ss) .properties ++ es, ?_, ?_⟩
      · exact (List.prefix_append_right_inj _).2 hes
      · rw [Graph.edits_append, Graph.edits_append]
        rfl

/-- A graph on the way is left by the first calls of an assembly. -/
theorem Passes.exists_calls (h : Passes (topicsOf ss) g) :
    ∃ before, before <+: assemblyCalls (topicsOf ss) ∧ Graph.empty.calls before = g := by
  rcases h.declared_or_edited rfl with ⟨ts, ⟨rest, hrest⟩, rfl⟩ | ⟨es, ⟨rest, hrest⟩, rfl⟩
  · refine ⟨_, ?_, calls_declaring _ ts⟩
    rw [assemblyCalls, ← hrest, topicsCalls_append, ← List.append_assoc, List.append_assoc]
    exact List.prefix_append _ _
  · refine ⟨seedCalls (editionOf (topicsOf ss)) ++ topicsCalls (seedGraph (editionOf (topicsOf ss)))
      (classTopics (topicsOf ss)) ++ es.map .edit, ?_, ?_⟩
    · rw [assemblyCalls, ← hrest, List.map_append, ← List.append_assoc]
      exact List.prefix_append _ _
    · rw [Graph.calls_append, calls_declaring, Graph.calls_map_edit]
      rfl

/-- A graph on the way is sound. -/
theorem Passes.sound (h : Passes (topicsOf ss) g) : g.Sound := by
  obtain ⟨before, ⟨rest, hrest⟩, rfl⟩ := h.exists_calls
  have hallows := allows_assemblyCalls ss
  rw [← hrest, Graph.allows_append] at hallows
  exact hallows.1.sound

theorem build_of_toExcept {x : Outcome} (h : x.toExcept = .ok b) : x.build = b := by
  rw [Outcome.toExcept] at h
  split at h
  · exact Except.ok.inj h
  · exact absurd h (by simp)

/-- The graph of an assembly that succeeds is the last one on the way. -/
theorem passes_of_assemble (h : assemble topics = .ok b) : Passes topics b.graph := by
  rw [assemble, bind_eq_ok_iff] at h
  obtain ⟨b₁, hb₁, h⟩ := h
  obtain ⟨_, hvalid, h⟩ := bind_eq_ok_iff.1 h
  obtain ⟨b₂, hb₂, hb₃⟩ := bind_eq_ok_iff.1 h
  rw [← build_of_toExcept hb₃]
  exact .bindingValues hb₁ hvalid hb₂ (Build.passes_run _ _)

/-! ## One union -/

/-- There is one union, that of the edition, and its members are the builtin classes. -/
structure Graph.OneUnion (edition : Edition) (g : Graph) : Prop where
  union : unionId ∈ g.ids ∧ g.iri unionId = edition.term "DataType"
  kind : ∀ c ∈ g.ids, g.kind c = .dataTypeUnion ↔ c = unionId
  members : ∀ u m, m ∈ g.unionMembers u ↔ u = unionId ∧ m ∈ g.ids ∧ g.kind m = .builtin

theorem Declares.oneUnion (h : Declares edition ss g) : g.OneUnion edition where
  union := h.union
  kind _ hc := h.kind_eq_union_iff hc
  members u m := Link.mem_targets.trans (h.unionMember u m)

theorem Graph.OneUnion.edits (h : g.OneUnion edition) {es : List Edit} (hes : g.Accepts es) :
    (g.edits es).OneUnion edition where
  union := by
      rw [Graph.ids_edits, Graph.iri_edits]
      exact h.union
  kind c hc := by
      rw [hes.kind_eq]
      exact h.kind c (Graph.ids_edits g es ▸ hc)
  members u m := by
      rw [Graph.unionMembers, Graph.unionMember_edits, Graph.ids_edits, hes.kind_eq]
      exact h.members u m

theorem Passes.oneUnion (h : Passes (topicsOf ss) g) :
    g.OneUnion (editionOf (topicsOf ss)) := by
  have hD := declares_declaredGraph ss
  rcases h.declared_or_edited rfl with ⟨ts, hts, rfl⟩ | ⟨es, ⟨rest, hrest⟩, rfl⟩
  · exact (Declares.foldl ts _ (declares_seedGraph _ ss) fun t ht =>
      mem_classTopics (hts.subset ht)).1.oneUnion
  · have haccepts := accepts_allEdits hD.properties_eq hD.values_eq (topicsOf ss)
    rw [← hrest, Graph.accepts_append] at haccepts
    exact hD.oneUnion.edits haccepts.1

/-! ## Soundness -/

/-- **Graphs are sound throughout.** Whatever calls build a graph, as long as they are allowed, its
    tables and links are in step, and numbers keep their meaning. An assembly is one allowed run of
    calls, so this goes for every graph that it passes through, and each of these has one union. -/
theorem sound_throughout :
    (∀ ks, Graph.empty.Allows ks → (Graph.empty.calls ks).BuiltBy ks) ∧
      ∀ ss, ∃ ks, Graph.empty.Allows ks ∧ ∀ g, Passes (topicsOf ss) g →
        (∃ before, before <+: ks ∧ Graph.empty.calls before = g ∧ g.BuiltBy before) ∧
          g.OneUnion (editionOf (topicsOf ss)) := by
  refine ⟨fun ks => Graph.Allows.builtBy, fun ss => ?_⟩
  have hallows := allows_assemblyCalls ss
  refine ⟨assemblyCalls (topicsOf ss), hallows, fun g hg => ⟨?_, hg.oneUnion⟩⟩
  obtain ⟨before, hbefore, rfl⟩ := hg.exists_calls
  obtain ⟨rest, hrest⟩ := hbefore
  rw [← hrest, Graph.allows_append] at hallows
  exact ⟨before, ⟨rest, hrest⟩, rfl, hallows.1.builtBy⟩

/-- Calls that say things twice, and put a class below itself. -/
def echoCalls : List Call :=
  let term := Edition.https.term
  [.insert (.ofKind (term "Thing") .ordinary), .insert (.ofKind (term "Thing") .dataTypeUnion),
   .edit (.addParent 0 0), .insert (.ofKind (term "Person") .ordinary), .edit (.addParent 1 0),
   .edit (.addParent 1 1), .edit (.addParent 1 0), .addUnionMember 0 0, .edit (.addSuccessor 1 1),
   .edit (.addProperty (term "name")),
   .edit (.bind { owner := 1, property := 0, key := term "name" }),
   .edit (.bind { owner := 1, property := 0, key := term "knows" }), .edit (.addRange 0 1),
   .edit (.addValue (term "Ada")), .edit (.addMember 1 0), .edit (.addMember 0 0),
   .edit (.addMember 1 0)]

/-- An ontology in which the second superclass of `Person` is not known. -/
def brokenStatements : List Statement :=
  let term := Edition.https.term
  [{ subject := term "Thing", predicate := rdfType, object := .entity rdfsClass },
   { subject := term "Person", predicate := rdfsSubClassOf, object := .entity (term "Thing") },
   { subject := term "Person", predicate := rdfsSubClassOf, object := .entity (term "Agent") },
   { subject := term "Person", predicate := rdfType, object := .entity rdfsClass }]

/-- The calls are allowed, and the error stops the linking of classes midway. -/
theorem sound_echoCalls_brokenStatements :
    (Graph.empty.calls echoCalls).BuiltBy echoCalls ∧
      (Graph.empty.calls echoCalls).parents 1 = [0, 1] ∧
      ∃ outcome, (Build.start (topicsOf brokenStatements)).linkClasses
          (topicsOf brokenStatements) = outcome ∧ outcome.failure.isSome = true ∧
        outcome.build.graph.parents 8 = [7] ∧ outcome.build.graph.Sound ∧
          outcome.build.graph.OneUnion .https := by
  obtain ⟨hcalls, hassembly⟩ := sound_throughout
  have hbuilt := hcalls echoCalls (by decide +kernel)
  obtain ⟨_, _, hpassed⟩ := hassembly brokenStatements
  obtain ⟨⟨_, _, _, hsound⟩, hunion⟩ := hpassed _ (.linking (Build.passes_run _ _))
  refine ⟨hbuilt, by decide +kernel, _, rfl, by decide +kernel, by decide +kernel,
    hsound.sound, ?_⟩
  exact (show editionOf (topicsOf brokenStatements) = .https by decide +kernel) ▸ hunion

end Ontotype

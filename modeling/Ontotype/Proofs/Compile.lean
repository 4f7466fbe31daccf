import Ontotype.Compile
import Ontotype.Proofs.Assembly.Acceptance
import Ontotype.Proofs.Graph.Order

set_option autoImplicit false

/-! # What is compiled

A compilation that succeeds has assembled the graph that portrays its statements, and declares
every class of it that is included, each once. -/

namespace Ontotype

variable {o : Options} {ss : List Statement} {r : Compiled} {g : Graph} {b : Build}

theorem compile_eq_ok_iff : compile o ss = .ok r ↔
    o.context.validate = .ok () ∧ ∃ b, assemble (topicsOf ss) = .ok b ∧ r = b.compiled o := by
  rw [compile, bind_eq_ok_iff]
  have hvalid : ∀ u, o.context.validate.mapError CompileError.invalidContext = .ok u ↔
      o.context.validate = .ok () := fun _ => mapError_eq_ok_iff
  simp only [hvalid, bind_eq_ok_iff, exists_and_left, exists_const]
  refine and_congr_right fun _ => exists_congr fun b => and_congr_right fun _ => ?_
  exact ⟨fun h => (Except.ok.inj h).symm, fun h => congrArg Except.ok h.symm⟩

theorem compile_isOk_iff : (compile o ss).isOk = true ↔ o.context.validate = .ok () ∧
    Readable (editionOf (topicsOf ss)) ss ∧ (assembledGraph ss).validate = .ok () := by
  rw [isOk_iff, ← exists_assemble_iff]
  simp only [compile_eq_ok_iff]
  constructor
  · rintro ⟨_, hcontext, b, hb, _⟩
    exact ⟨hcontext, b, hb⟩
  · rintro ⟨hcontext, b, hb⟩
    exact ⟨_, hcontext, b, hb, rfl⟩

theorem graph_of_assemble (h : assemble (topicsOf ss) = .ok b) : b.graph = assembledGraph ss := by
  obtain ⟨_, _, rfl⟩ := (assemble_eq_ok_iff rfl).1 h
  exact Build.graph_foldl _ _

theorem compiled_of_compile (h : compile o ss = .ok r) : r.graph = assembledGraph ss ∧
    r.declarations = declarationsOf r.graph o ∧ r.preamble = .ofGraph r.graph o.context := by
  obtain ⟨_, b, hb, rfl⟩ := compile_eq_ok_iff.1 h
  exact ⟨graph_of_assemble hb, rfl, rfl⟩

theorem portrays_of_compile (h : compile o ss = .ok r) :
    Portrays (editionOf (topicsOf ss)) ss r.graph :=
  (compiled_of_compile h).1 ▸ portrays_assembledGraph ss

theorem readable_of_compile (h : compile o ss = .ok r) : Readable (editionOf (topicsOf ss)) ss :=
  (compile_isOk_iff.1 (isOk_iff.2 ⟨r, h⟩)).2.1

/-! ## The declarations -/

theorem mem_declarationsOf {d : Declaration} : d ∈ declarationsOf g o ↔
    ∃ c ∈ g.ids, (Resolver.ofGraph g o.context o.includeDeprecated).visible c = true ∧
      (Resolver.ofGraph g o.context o.includeDeprecated).declaration c = d := by
  rw [declarationsOf, List.mem_map]
  refine exists_congr fun c => ?_
  rw [List.mem_filter, (sortedIds_perm g).mem_iff, and_assoc]

/-- Where deprecated classes are included, every class is declared. -/
theorem mem_declarations_of_includeDeprecated (h : compile o ss = .ok r)
    (ho : o.includeDeprecated = true) {d : Declaration} : d ∈ r.declarations ↔
      ∃ c ∈ r.graph.ids, (Resolver.ofGraph r.graph o.context true).declaration c = d := by
  rw [(compiled_of_compile h).2.1, mem_declarationsOf, ho]
  refine exists_congr fun c => and_congr_right fun _ => ?_
  exact and_iff_right (by rw [Resolver.visible]; rfl)

end Ontotype

import Ontotype.Proofs.Assembly.Acceptance
import Ontotype.Proofs.Assembly.Findings
import Ontotype.Proofs.Declaration.Alike

set_option autoImplicit false

/-! # The order of the statements does not matter

Statements may come in any order and may be repeated. Order decides which number a class gets, in
which order a walk enters the classes, and what a list of superclasses looks like; of all this
nothing is left in what is compiled, hierarchies that run in circles included. Two things remain to
be told: the edition, which the first schema.org term decides, and a subject with several comments,
of which the last counts. -/

namespace Ontotype

open Vocabulary

variable {ss ss' : List Statement} {o : Options} {r r' : Compiled}

/-- What is assembled from the same statements is alike. -/
theorem SameStatements.alike (hss : SameStatements ss ss')
    (hedition : editionOf (topicsOf ss) = editionOf (topicsOf ss')) (hone : OneText ss) :
    Alike (editionOf (topicsOf ss)) ss ss' (assembledGraph ss) (assembledGraph ss') where
  left := portrays_assembledGraph ss
  right := hedition ▸ portrays_assembledGraph ss'
  same := hss
  oneText := hone

theorem isOk_of_same (hss : SameStatements ss ss')
    (hedition : editionOf (topicsOf ss) = editionOf (topicsOf ss')) (hone : OneText ss)
    (hok : (compile o ss).isOk = true) : (compile o ss').isOk = true := by
  obtain ⟨hcontext, hreadable, hvalid⟩ := compile_isOk_iff.1 hok
  refine compile_isOk_iff.2 ⟨hcontext, ?_, (hss.alike hedition hone).validate_of_left hvalid⟩
  rw [← hedition]
  exact hreadable.of_same hss

/-- What is found in an ontology: what its statements give rise to, and the names that its
    declarations share. -/
theorem findings_of_compile (h : compile o ss = .ok r) :
    r.findings.Perm (findingsOf ss ++ collisions [] r.declarations) := by
  obtain ⟨_, b, hb, rfl⟩ := compile_eq_ok_iff.1 h
  exact (findings_of_assemble hb).append_right _

/-- **The order of the statements does not matter, nor do repetitions.** If two lists have the same
    statements, are written in one edition, and give no subject comments with different texts, then
    either both compile or none does, and what is compiled has the same declarations in the same
    order and the same helpers. If one list is a permutation of the other, the findings are the same
    up to their order. -/
theorem compile_congr (hss : SameStatements ss ss')
    (hedition : editionOf (topicsOf ss) = editionOf (topicsOf ss')) (hone : OneText ss)
    (o : Options) :
    (compile o ss).isOk = (compile o ss').isOk ∧
      ∀ r r', compile o ss = .ok r → compile o ss' = .ok r' →
        r.declarations = r'.declarations ∧ r.preamble = r'.preamble ∧
          (ss.Perm ss' → r.findings.Perm r'.findings) := by
  have halike := hss.alike hedition hone
  constructor
  · rw [Bool.eq_iff_iff]
    exact ⟨isOk_of_same hss hedition hone,
      isOk_of_same hss.symm hedition.symm (hss.oneText hone)⟩
  · intro r r' hr hr'
    obtain ⟨hgraph, hdeclarations, hpreamble⟩ := compiled_of_compile hr
    obtain ⟨hgraph', hdeclarations', hpreamble'⟩ := compiled_of_compile hr'
    have hsame : r.declarations = r'.declarations := by
      rw [hdeclarations, hdeclarations', hgraph, hgraph']
      exact halike.declarationsOf_eq o
    refine ⟨hsame, ?_, fun hperm => ?_⟩
    · rw [hpreamble, hpreamble', hgraph, hgraph']
      exact halike.preamble_eq o.context
    · have hfindings := (findingsOf_perm hperm hedition).append_right (collisions [] r.declarations)
      refine (findings_of_compile hr).trans (hfindings.trans ?_)
      rw [hsame]
      exact (findings_of_compile hr').symm

/-- An ontology in which two classes are below each other, and one of them is given its comment
    twice. -/
def mutualStatements : List Statement :=
  let term := Edition.https.term
  let origin := Term.literal "Where the other one comes from." none
  [{ subject := term "Egg", predicate := rdfsSubClassOf, object := .entity (term "Hen") },
   { subject := term "Hen", predicate := rdfsSubClassOf, object := .entity (term "Egg") },
   { subject := term "Hen", predicate := rdfType, object := .entity rdfsClass },
   { subject := term "Hen", predicate := rdfsComment, object := origin },
   { subject := term "lays", predicate := rdfType, object := .entity rdfProperty },
   { subject := term "lays", predicate := term "domainIncludes", object := .entity (term "Hen") },
   { subject := term "lays", predicate := term "rangeIncludes", object := .entity (term "Egg") },
   { subject := term "Hen", predicate := rdfsComment, object := origin }]

theorem compile_congr_mutualStatements :
    ∃ r r', compile {} mutualStatements = .ok r ∧ compile {} mutualStatements.reverse = .ok r' ∧
      r.declarations = r'.declarations ∧ r.preamble = r'.preamble ∧
        r.findings.Perm r'.findings := by
  have hss : SameStatements mutualStatements mutualStatements.reverse :=
    fun _ => List.mem_reverse.symm
  have hedition : editionOf (topicsOf mutualStatements) =
      editionOf (topicsOf mutualStatements.reverse) := by decide +kernel
  have htext : ∀ s ∈ mutualStatements,
      s.text? = none ∨ s.text? = some "Where the other one comes from." := by decide +kernel
  have hone : OneText mutualStatements := by
    intro s hs s' hs' _ text text' ht ht'
    rcases htext s hs with h | h <;> rcases htext s' hs' with h' | h' <;> simp_all
  obtain ⟨hisOk, hsame⟩ := compile_congr hss hedition hone {}
  have hok : (compile {} mutualStatements).isOk = true := by decide +kernel
  obtain ⟨r, hr⟩ := isOk_iff.1 hok
  obtain ⟨r', hr'⟩ := isOk_iff.1 (hisOk ▸ hok)
  obtain ⟨hdeclarations, hpreamble, hfindings⟩ := hsame r r' hr hr'
  exact ⟨r, r', hr, hr', hdeclarations, hpreamble, hfindings (List.reverse_perm _).symm⟩

end Ontotype

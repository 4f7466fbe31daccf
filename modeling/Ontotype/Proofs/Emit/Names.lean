import Mathlib.Data.List.Pairwise
import Ontotype.Proofs.Declaration.Collisions
import Ontotype.Proofs.Emit.Placement

set_option autoImplicit false

/-! # Names declared in TypeScript

At the top level of its TypeScript, an ontology declares the helper names and, for each of its
declarations, the names of the base and the leaf and the identifier. Shared identifiers are
reported. Where none is, two of the names are the same in one way only: the identifier of a class is
a helper name, or the identifier of another class with `Base` or `Leaf` behind it
(`nodup_topLevelNames_iff`). Nothing reports that (`topLevelNames_personAnd`). -/

namespace Ontotype

open Ontotype.Text Ontotype.TypeScript Vocabulary

variable {o : Options} {ss : List Statement} {r : Compiled} {n : String}

/-! ## Reading declared names -/

/-- What follows the keyword of a declaration. -/
def afterKeyword? (line : List Char) : Option (List Char) :=
  (stripStart? "interface ".toList line).or (stripStart? "type ".toList line)

/-- The name that a line of code declares at the top level, if it declares one. -/
def declaredName? (line : List Char) : Option String :=
  (afterKeyword? ((stripStart? "export ".toList line).getD line)).map fun cs =>
    String.ofList (cs.takeWhile Iri.isIdentifierChar)

/-- The names that lines of code declare at the top level. -/
def declaredNames (lines : List String) : List String :=
  (lines.map String.toList).filterMap declaredName?

/-- The names that a text declares at the top level. -/
def topLevelNames (text : String) : List String := (codeLines text).filterMap declaredName?

theorem declaredName?_indented (cs : List Char) : declaredName? (' ' :: cs) = none := rfl

theorem stripStart?_of_isBlankLine {c : Char} (hc : isBlank c = false) (start : List Char)
    {line : List Char} (h : isBlankLine line = true) : stripStart? (c :: start) line = none := by
  rw [Option.eq_none_iff_forall_ne_some]
  intro rest hrest
  have hblank : isBlank c = true :=
    List.all_eq_true.1 h c (by rw [stripStart?_eq_some_iff.1 hrest]; exact List.mem_cons_self)
  rw [hc] at hblank
  exact absurd hblank (by decide)

/-- A blank line declares nothing. -/
theorem declaredName?_of_isBlankLine {line : List Char} (h : isBlankLine line = true) :
    declaredName? line = none := by
  have hexport : stripStart? "export ".toList line = none :=
    stripStart?_of_isBlankLine (by decide) "xport ".toList h
  have hinterface : stripStart? "interface ".toList line = none :=
    stripStart?_of_isBlankLine (by decide) "nterface ".toList h
  have htype : stripStart? "type ".toList line = none :=
    stripStart?_of_isBlankLine (by decide) "ype ".toList h
  rw [declaredName?, hexport, Option.getD_none, afterKeyword?, hinterface, htype]
  rfl

theorem filterMap_declaredName?_filter (lines : List (List Char)) :
    (lines.filter (!isBlankLine ·)).filterMap declaredName? = lines.filterMap declaredName? := by
  rw [List.filterMap_filter]
  refine List.filterMap_congr fun line _ => ?_
  cases hblank : isBlankLine line with
  | false => rfl
  | true => exact (declaredName?_of_isBlankLine hblank).symm

/-- The name that is declared ends where a space follows it. -/
theorem takeWhile_name (h : IsIdentifier n) {rest : String} (hrest : rest.toList.head? = some ' ') :
    String.ofList ((n ++ rest).toList.takeWhile Iri.isIdentifierChar) = n := by
  obtain ⟨cs, hcs⟩ := List.head?_eq_some_iff.1 hrest
  rw [String.toList_append, hcs, List.takeWhile_append_of_pos h.all,
    List.takeWhile_cons_of_neg (by decide), List.append_nil, String.ofList_toList]

theorem declaredName?_interface (h : IsIdentifier n) {rest : String}
    (hrest : rest.toList.head? = some ' ') :
    declaredName? ("interface " ++ (n ++ rest)).toList = some n := by
  rw [String.toList_append]
  exact congrArg some (takeWhile_name h hrest)

theorem declaredName?_exportType (h : IsIdentifier n) {rest : String}
    (hrest : rest.toList.head? = some ' ') :
    declaredName? ("export type " ++ (n ++ rest)).toList = some n := by
  rw [String.toList_append]
  exact congrArg some (takeWhile_name h hrest)

example : topLevelNames "/* type A */\nexport type B = \"C\";\n    type: D;\n" = ["B"] := by
  decide +kernel

/-! ## Lines -/

theorem declaredNames_append (ls ls' : List String) :
    declaredNames (ls ++ ls') = declaredNames ls ++ declaredNames ls' := by
  rw [declaredNames, List.map_append, List.filterMap_append]
  rfl

theorem declaredNames_flatMap {α : Type} (xs : List α) (f : α → List String) :
    declaredNames (xs.flatMap f) = xs.flatMap fun x => declaredNames (f x) := by
  rw [declaredNames, List.map_flatMap, List.filterMap_flatMap]
  rfl

theorem declaredNames_cons_some {l : String} (h : declaredName? l.toList = some n)
    (ls : List String) : declaredNames (l :: ls) = n :: declaredNames ls := by
  rw [declaredNames, List.map_cons, List.filterMap_cons, h]
  rfl

theorem declaredNames_cons_none {l : String} (h : declaredName? l.toList = none)
    (ls : List String) : declaredNames (l :: ls) = declaredNames ls := by
  rw [declaredNames, List.map_cons, List.filterMap_cons, h]
  rfl

/-! ## Names of the declarations -/

/-- The names of the interfaces of a declaration. -/
def Declaration.interfaceNames (d : Declaration) : List String :=
  (d.base.map Base.name).toList ++ (d.leaf.map Leaf.name).toList

/-- The names that a declaration declares. -/
def Declaration.declaredNames (d : Declaration) : List String := d.interfaceNames ++ [d.ident]

theorem declaredNames_member (hasRole : Bool) (m : Member) :
    declaredNames (member hasRole m.withoutComment) = [] := by
  refine declaredNames_cons_none ?_ []
  simp only [String.append_assoc, String.toList_append]
  exact declaredName?_indented _

theorem declaredNames_base {b : Base} (hasRole : Bool) (h : IsIdentifier b.name) :
    declaredNames (base hasRole b.withoutComments) = [b.name] := by
  have hheader : declaredName? ("interface " ++ b.name ++ " extends " ++ heritage b.heritage
      ++ " \x7b").toList = some b.name := by
    simp only [String.append_assoc]
    refine declaredName?_interface h ?_
    rw [String.toList_append]
    rfl
  have hmembers : declaredNames (b.withoutComments.members.flatMap (member hasRole)) = [] := by
    rw [Base.withoutComments, declaredNames_flatMap, List.flatMap_map]
    exact List.flatMap_eq_nil_iff.2 fun m _ => declaredNames_member hasRole m
  rw [base, declaredNames_append, declaredNames_append, hmembers, List.append_nil]
  exact congrArg (· ++ declaredNames ["\x7d"]) (declaredNames_cons_some hheader [])

theorem declaredNames_leaf {l : Leaf} (h : IsIdentifier l.name) :
    declaredNames (leaf l) = [l.name] := by
  have hheader : ∀ extended : String, extended = "" ∨ extended.toList.head? = some ' ' →
      declaredName? ("interface " ++ l.name ++ extended ++ " \x7b").toList = some l.name := by
    intro extended hextended
    simp only [String.append_assoc]
    refine declaredName?_interface h ?_
    rw [String.toList_append]
    rcases hextended with rfl | hextended
    · rfl
    · rw [List.head?_append, hextended]
      rfl
  have hlabel : declaredName? ("    \"@type\": " ++ Json.quote l.discriminator ++ ";").toList =
      none := by
    simp only [String.append_assoc, String.toList_append]
    exact declaredName?_indented _
  rw [leaf, declaredNames_cons_some (hheader _ ?_), declaredNames_cons_none hlabel]
  · rfl
  · split
    · exact Or.inl rfl
    · rw [String.toList_append]
      exact Or.inr rfl

theorem declaredNames_declaration {d : Declaration} (hasRole : Bool) (h : d.Plain) :
    declaredNames (declaration hasRole d.withoutComments) = d.declaredNames := by
  have hbase : declaredNames ((d.withoutComments.base.map (base hasRole)).getD []) =
      (d.base.map Base.name).toList := by
    rw [Declaration.withoutComments, Option.map_map]
    cases hb : d.base with
    | none => rfl
    | some b =>
        have hname : b.name ∈ d.names := by simp [Declaration.names, hb, Base.names]
        exact declaredNames_base hasRole (h.names _ hname)
  have hleaf : declaredNames ((d.leaf.map leaf).getD []) = (d.leaf.map Leaf.name).toList := by
    cases hl : d.leaf with
    | none => rfl
    | some l =>
        have hname : l.name ∈ d.names := by simp [Declaration.names, hl, Leaf.names]
        exact declaredNames_leaf (h.names _ hname)
  have halias : declaredName? ("export type " ++ d.ident ++ " = " ++ union d.total ++ ";").toList =
      some d.ident := by
    have hname : d.ident ∈ d.names := by simp [Declaration.names]
    simp only [String.append_assoc]
    refine declaredName?_exportType (h.names _ hname) ?_
    rw [String.toList_append]
    rfl
  have hdoc : declaredNames (doc "" d.withoutComments.comment) = [] := rfl
  have hempty : declaredNames [""] = [] := rfl
  rw [declaration, declaredNames_append, declaredNames_append, declaredNames_append, hbase, hdoc,
    List.append_nil, show d.withoutComments.leaf = d.leaf from rfl, hleaf,
    show d.withoutComments.ident = d.ident from rfl,
    show d.withoutComments.total = d.total from rfl, declaredNames_cons_some halias, hempty,
    Declaration.declaredNames, Declaration.interfaceNames]

/-! ## Names of the helper declarations -/

/-- The names that a helper declaration declares. -/
def Helper.names (hasRole : Bool) : Helper → List String
  | .schemaValue => if hasRole then ["RoleValue", "SchemaValue"] else ["SchemaValue"]
  | .idReference => ["IdReference"]
  | .withContext => ["WithContext"]
  | .graph => ["Graph"]

/-- The names that the helper declarations declare. -/
def helperNames (hasRole : Bool) : List String := Helper.all.flatMap (Helper.names hasRole)

theorem declaredNames_helperCode (h : Preamble) (k : Helper) :
    declaredNames (helperCode h k) = k.names h.hasRole := by
  have hcontext : declaredName? ("    \"@context\": " ++ h.context.text ++ ";").toList = none := by
    simp only [String.append_assoc, String.toList_append]
    exact declaredName?_indented _
  cases k with
  | schemaValue =>
      rw [helperCode, helper, Helper.names]
      · split <;> decide +kernel
      all_goals simp
  | idReference =>
      show declaredNames ["type IdReference = \x7b", "    \"@id\": string;", "\x7d;"] =
        ["IdReference"]
      decide +kernel
  | withContext =>
      have hheader : declaredName? ("export type WithContext<T extends " ++ h.root.getD "object"
          ++ "> = T & \x7b").toList = some "WithContext" := by
        simp only [String.append_assoc, String.toList_append]
        rfl
      show declaredNames [_, _, _] = _
      rw [declaredNames_cons_some hheader, declaredNames_cons_none hcontext]
      rfl
  | graph =>
      have hopen : declaredName? "export interface Graph \x7b".toList = some "Graph" := by
        decide +kernel
      have hobjects : declaredName? ("    \"@graph\": readonly " ++ h.root.getD "object"
          ++ "[];").toList = none := by
        simp only [String.append_assoc, String.toList_append]
        exact declaredName?_indented _
      rw [helperCode, helper, declaredNames_cons_some hopen, declaredNames_cons_none hcontext,
        declaredNames_cons_none hobjects]
      · rfl
      all_goals simp

/-- The names that the TypeScript of an ontology declares. -/
theorem topLevelNames_eq (h : compile o ss = .ok r) : topLevelNames r.typeScript =
    helperNames r.preamble.hasRole ++ r.declarations.flatMap Declaration.declaredNames := by
  have hplain := plain_of_compile h
  obtain ⟨_, hscan⟩ := scan_declaring h
  -- what declares a name is code, and the code does not depend on comments
  have hcode : topLevelNames r.typeScript = declaredNames r.code := by
    rw [topLevelNames, show codeLines r.typeScript = _ from (hscan r.declarations hplain).2.2,
      filterMap_declaredName?_filter]
    rfl
  have hhelpers : declaredNames (preambleCode r.preamble) = helperNames r.preamble.hasRole := by
    rw [preambleCode, declaredNames_flatMap, (compiled_of_compile h).2.2]
    refine List.flatMap_congr fun k _ => ?_
    rw [declaredNames_append, declaredNames_helperCode]
    exact List.append_nil _
  rw [hcode, Compiled.code, declaredNames_append, hhelpers, declaredNames_flatMap]
  exact congrArg _ (List.flatMap_congr fun d hd => declaredNames_declaration _ (hplain d hd))

/-! ## Shared names -/

/-- Without a finding about shared names, no two declarations have one identifier. -/
theorem pairwise_ident_of_compile (h : compile o ss = .ok r)
    (hfindings : ∀ f ∈ r.findings, f.kind ≠ .nameCollision) :
    r.declarations.Pairwise fun d d' => d.ident ≠ d'.ident := by
  have hnil : collisions [] r.declarations = [] := by
    rw [← nameCollisions_eq h]
    exact List.filter_eq_nil_iff.2 fun f hf heq => hfindings f hf (of_decide_eq_true heq)
  exact List.pairwise_map.1 ((collisions_eq_nil_iff _).1 hnil).2

/-- The base and the leaf of a declaration are named for it. -/
structure Declaration.NamedForIdent (d : Declaration) : Prop where
  base : ∀ b, d.base = some b → b.name = d.ident ++ "Base"
  leaf : ∀ l, d.leaf = some l → l.name = d.ident ++ "Leaf"

theorem namedForIdent_of_compile (h : compile o ss = .ok r) :
    ∀ d ∈ r.declarations, d.NamedForIdent := by
  intro d hd
  have hg := (portrays_of_compile h).inRange
  rw [(compiled_of_compile h).2.1, mem_declarationsOf] at hd
  obtain ⟨c, hc, _, rfl⟩ := hd
  exact ⟨fun _ hb => Resolver.name_of_base hg hc hb, fun _ hl => Resolver.name_of_leaf hg hc hl⟩

theorem append_base_ne_append_leaf (a b : String) : a ++ "Base" ≠ b ++ "Leaf" := by
  intro h
  have hchars := congrArg String.toList h
  rw [String.toList_append, String.toList_append] at hchars
  exact absurd (List.append_inj_right' hchars rfl) (by decide)

theorem nodup_helperNames (hasRole : Bool) : (helperNames hasRole).Nodup := by
  cases hasRole <;> decide

/-- No helper name is the name of an interface. -/
theorem helperNames_ne {hasRole : Bool} (hn : n ∈ helperNames hasRole) (a : String) :
    n ≠ a ++ "Base" ∧ n ≠ a ++ "Leaf" := by
  have hends : ∀ n ∈ helperNames hasRole,
      ¬ "Base".toList <:+ n.toList ∧ ¬ "Leaf".toList <:+ n.toList := by
    cases hasRole <;> decide +kernel
  obtain ⟨hbase, hleaf⟩ := hends n hn
  constructor <;> rintro rfl
  · exact hbase (by rw [String.toList_append]; exact List.suffix_append _ _)
  · exact hleaf (by rw [String.toList_append]; exact List.suffix_append _ _)

namespace Declaration

variable {d d' : Declaration}

theorem NamedForIdent.of_mem_interfaceNames (h : d.NamedForIdent) (hn : n ∈ d.interfaceNames) :
    n = d.ident ++ "Base" ∨ n = d.ident ++ "Leaf" := by
  rw [interfaceNames, List.mem_append, Option.mem_toList, Option.mem_toList] at hn
  rcases hn with hn | hn
  · obtain ⟨b, hb, rfl⟩ := Option.map_eq_some_iff.1 hn
    exact Or.inl (h.base b hb)
  · obtain ⟨l, hl, rfl⟩ := Option.map_eq_some_iff.1 hn
    exact Or.inr (h.leaf l hl)

theorem NamedForIdent.nodup_interfaceNames (h : d.NamedForIdent) : d.interfaceNames.Nodup := by
  have hone : ∀ o : Option String, o.toList.Nodup := by
    intro o
    cases o <;> simp
  refine List.nodup_append.2 ⟨hone _, hone _, ?_⟩
  intro n hn m hm
  obtain ⟨b, hb, rfl⟩ := Option.map_eq_some_iff.1 (Option.mem_toList.1 hn)
  obtain ⟨l, hl, rfl⟩ := Option.map_eq_some_iff.1 (Option.mem_toList.1 hm)
  rw [h.base b hb, h.leaf l hl]
  exact append_base_ne_append_leaf d.ident d.ident

/-- Two declarations with an interface name in common have one identifier. -/
theorem NamedForIdent.ident_eq (h : d.NamedForIdent) (h' : d'.NamedForIdent)
    (hn : n ∈ d.interfaceNames) (hn' : n ∈ d'.interfaceNames) : d.ident = d'.ident := by
  rcases h.of_mem_interfaceNames hn with rfl | rfl <;>
    rcases h'.of_mem_interfaceNames hn' with heq | heq
  · exact (String.append_left_inj "Base").1 heq
  · exact absurd heq (append_base_ne_append_leaf _ _)
  · exact absurd heq.symm (append_base_ne_append_leaf _ _)
  · exact (String.append_left_inj "Leaf").1 heq

theorem mem_declaredNames : n ∈ d.declaredNames ↔ n ∈ d.interfaceNames ∨ n = d.ident := by
  rw [declaredNames, List.mem_append, List.mem_singleton]

theorem ident_mem_declaredNames (d : Declaration) : d.ident ∈ d.declaredNames :=
  mem_declaredNames.2 (Or.inr rfl)

/-- Declarations of different identifiers share a name if one of them has the name of an interface
    as its identifier. -/
theorem nodup_flatMap_declaredNames_iff {ds : List Declaration}
    (hnamed : ∀ d ∈ ds, d.NamedForIdent) (hident : ds.Pairwise fun d d' => d.ident ≠ d'.ident) :
    (ds.flatMap declaredNames).Nodup ↔ ∀ d ∈ ds, ∀ d' ∈ ds, d.ident ∉ d'.interfaceNames := by
  rw [List.nodup_flatMap]
  constructor
  · rintro ⟨hself, hpairwise⟩ d hd d' hd' hin
    by_cases heq : d = d'
    · subst heq
      have hdisjoint := (List.nodup_append.1 (hself d hd)).2.2
      exact hdisjoint _ hin _ (List.mem_singleton_self _) rfl
    · have hsymm : Std.Symm (Function.onFun List.Disjoint declaredNames) :=
        ⟨fun _ _ h n hn hn' => h hn' hn⟩
      exact hpairwise.forall hd hd' heq d.ident_mem_declaredNames (mem_declaredNames.2 (Or.inl hin))
  · intro hapart
    constructor
    · intro d hd
      refine List.nodup_append.2 ⟨(hnamed d hd).nodup_interfaceNames, List.nodup_singleton _, ?_⟩
      rintro n hn _ hm rfl
      exact hapart d hd d hd (List.mem_singleton.1 hm ▸ hn)
    · -- a name in both is an identifier of one that is an interface of the other
      refine hident.imp_of_mem ?_
      intro d d' hd hd' hne n hn hn'
      rcases mem_declaredNames.1 hn with hn | hn <;> rcases mem_declaredNames.1 hn' with hn' | hn'
      · exact hne ((hnamed d hd).ident_eq (hnamed d' hd') hn hn')
      · exact hapart d' hd' d hd (hn' ▸ hn)
      · exact hapart d hd d' hd' (hn ▸ hn')
      · exact hne (hn.symm.trans hn')

end Declaration

/-- **Without a finding about shared names, names clash in two ways only.** The identifier of a
    declaration is a helper name, or it is the name of an interface of another declaration. -/
theorem nodup_topLevelNames_iff (h : compile o ss = .ok r)
    (hfindings : ∀ f ∈ r.findings, f.kind ≠ .nameCollision) :
    topLevelNames r.typeScript =
        helperNames r.preamble.hasRole ++ r.declarations.flatMap Declaration.declaredNames ∧
      (∀ d ∈ r.declarations, d.NamedForIdent) ∧
      ((topLevelNames r.typeScript).Nodup ↔ ∀ d ∈ r.declarations,
        d.ident ∉ helperNames r.preamble.hasRole ∧
          ∀ d' ∈ r.declarations, d.ident ∉ d'.interfaceNames) := by
  have hnamed := namedForIdent_of_compile h
  have hident := pairwise_ident_of_compile h hfindings
  refine ⟨topLevelNames_eq h, hnamed, ?_⟩
  rw [topLevelNames_eq h, List.nodup_append,
    Declaration.nodup_flatMap_declaredNames_iff hnamed hident]
  constructor
  · rintro ⟨_, hapart, hhelpers⟩ d hd
    refine ⟨fun hhelper => ?_, hapart d hd⟩
    exact hhelpers _ hhelper _ (List.mem_flatMap.2 ⟨d, hd, d.ident_mem_declaredNames⟩) rfl
  · intro hapart
    refine ⟨nodup_helperNames _, fun d hd => (hapart d hd).2, ?_⟩
    rintro n hn _ hm rfl
    obtain ⟨d, hd, hm⟩ := List.mem_flatMap.1 hm
    rcases Declaration.mem_declaredNames.1 hm with hm | rfl
    · rcases (hnamed d hd).of_mem_interfaceNames hm with heq | heq
      · exact (helperNames_ne hn _).1 heq
      · exact (helperNames_ne hn _).2 heq
    · exact (hapart d hd).1 hn

/-- An ontology of a class `Person` with a property, and of other classes. -/
def personAnd (names : List String) : List Statement :=
  let term := Edition.https.term
  let typed (name : String) (type : Iri) : Statement :=
    { subject := term name, predicate := rdfType, object := .entity type }
  [typed "Person" rdfsClass, typed "name" rdfProperty,
   { subject := term "name", predicate := term "domainIncludes",
     object := .entity (term "Person") }] ++ names.map fun name => typed name rdfsClass

theorem nodup_topLevelNames_personAnd :
    ∃ r, compile {} (personAnd ["Role"]) = .ok r ∧
      (topLevelNames r.typeScript).Nodup := by
  have hall : (compile {} (personAnd ["Role"])).map (fun r =>
      decide (r.findings = [] ∧ ∀ d ∈ r.declarations, d.ident ∉ helperNames r.preamble.hasRole ∧
        ∀ d' ∈ r.declarations, d.ident ∉ d'.interfaceNames)) = .ok true := by decide +kernel
  obtain ⟨r, hr, hdecide⟩ := exists_of_map_eq_ok hall
  obtain ⟨hfindings, hapart⟩ := of_decide_eq_true hdecide
  exact ⟨r, hr, (nodup_topLevelNames_iff hr (by simp [hfindings])).2.2.2 hapart⟩

/-- A class may have a name of the emitter, and nothing reports it: neither a helper name, nor that
    of the interface of another class. -/
theorem topLevelNames_personAnd :
    ∃ r, compile {} (personAnd ["Graph", "PersonBase", "PersonLeaf"]) = .ok r ∧
      (∀ f ∈ r.findings, f.kind ≠ .nameCollision) ∧ ¬ (topLevelNames r.typeScript).Nodup ∧
        ∀ n ∈ ["Graph", "PersonBase", "PersonLeaf"],
          (topLevelNames r.typeScript).count n = 2 := by
  have hall : (compile {} (personAnd ["Graph", "PersonBase", "PersonLeaf"])).map
      (fun r => decide (r.findings = [] ∧ ∀ n ∈ ["Graph", "PersonBase", "PersonLeaf"],
        (helperNames r.preamble.hasRole
          ++ r.declarations.flatMap Declaration.declaredNames).count n = 2)) = .ok true := by
    decide +kernel
  obtain ⟨r, hr, hdecide⟩ := exists_of_map_eq_ok hall
  obtain ⟨hfindings, hcount⟩ := of_decide_eq_true hdecide
  rw [← topLevelNames_eq hr] at hcount
  refine ⟨r, hr, by simp [hfindings], fun hnodup => ?_, hcount⟩
  have hle := List.nodup_iff_count_le_one.1 hnodup "Graph"
  rw [hcount "Graph" List.mem_cons_self] at hle
  exact absurd hle (by decide)

end Ontotype

import Ontotype.Emit.Writer
import Ontotype.Proofs.Declaration.Identifiers
import Ontotype.Proofs.Emit.Comments

set_option autoImplicit false

/-! # Texts stay in their place

What an ontology says reaches its TypeScript in three ways: as comments, in string tokens, and as
identifiers. None of the three gets out of its place. A scan of the text is in code after each
declaration, the string tokens that it finds are the keys, labels and literals of the declarations,
the code is made of identifiers besides, and without its comments the text does not depend on what
they say (`contained_of_compile`). -/

namespace Ontotype

open Ontotype.Text Ontotype.TypeScript Vocabulary

/-! ## Declarations without comments -/

def Member.withoutComment (m : Member) : Member := { m with comment := none }

def EnumMember.withoutComment (m : EnumMember) : EnumMember := { m with comment := none }

def Base.withoutComments (b : Base) : Base :=
  { b with members := b.members.map Member.withoutComment }

/-- The declaration with neither its own comment nor those of its members. -/
def Declaration.withoutComments (d : Declaration) : Declaration :=
  { d with
    comment := none
    base := d.base.map Base.withoutComments
    enumMembers := d.enumMembers.map EnumMember.withoutComment }

/-! ## What is quoted -/

/-- The text that a reference to a type quotes. -/
def TypeRef.text? : TypeRef → Option String
  | .literal text => some text
  | _ => none

/-- The key of a member, as often as it is written. -/
def Member.quoted (hasRole : Bool) (m : Member) : List String :=
  if hasRole then [m.key, m.key] else [m.key]

/-- The texts that a declaration quotes: the keys of its base, the label and the discriminator of
    its leaf, and the literals of its total type. -/
def Declaration.quoted (hasRole : Bool) (d : Declaration) : List String :=
  (d.base.map fun b => b.members.flatMap (Member.quoted hasRole)).getD []
    ++ (d.leaf.map fun l => ["@type", l.discriminator]).getD []
    ++ d.total.filterMap TypeRef.text?

/-! ## Code -/

namespace IsCode

variable {a b : String} {texts texts' : List String}

theorem append_string (h : IsCode a.toList texts) (h' : IsCode b.toList texts') :
    IsCode (a ++ b).toList (texts ++ texts') := by
  rw [String.toList_append]
  exact h.append h'

theorem of_isIdentifier (h : IsIdentifier a) : IsCode a.toList [] := by
  refine of_plain fun x hx => ?_
  have hx := h.all x hx
  refine ⟨?_, ?_, ?_⟩ <;> rintro rfl <;> exact absurd hx (by decide)

theorem intercalate {α : Type} (sep : String) (hsep : IsCode sep.toList []) (f : α → String)
    {texts : α → List String} (xs : List α) (h : ∀ x ∈ xs, IsCode (f x).toList (texts x)) :
    IsCode (String.intercalate sep (xs.map f)).toList (xs.flatMap texts) := by
  induction xs with
  | nil => simpa using nil
  | cons x xs ih =>
      rw [List.forall_mem_cons] at h
      cases xs with
      | nil => simpa using h.1
      | cons y ys =>
          rw [List.map_cons, List.map_cons, String.intercalate_cons_cons, List.flatMap_cons]
          have hx := h.1.append_string hsep
          rw [List.append_nil] at hx
          exact hx.append_string (ih h.2)

theorem names (xs : List String) (h : ∀ n ∈ xs, IsIdentifier n) :
    IsCode (String.intercalate ", " xs).toList [] := by
  have hall := intercalate ", " (of_all (by decide)) id xs
    fun n hn => of_isIdentifier (h n hn)
  rwa [List.map_id, List.flatMap_eq_nil_iff.2 fun _ _ => rfl] at hall

theorem typeRef {t : TypeRef} (h : ∀ n, t.name? = some n → IsIdentifier n) :
    IsCode (typeRef t).toList t.text?.toList := by
  cases t with
  | primitive type => cases type <;> exact of_all (by decide)
  | named ident => exact of_isIdentifier (h ident rfl)
  | literal text => exact quote text
  | idReference => exact of_all (by decide)

theorem union {types : List TypeRef} (h : ∀ n ∈ types.filterMap TypeRef.name?, IsIdentifier n) :
    IsCode (union types).toList (types.filterMap TypeRef.text?) := by
  rw [TypeScript.union]
  split
  · next hempty =>
      rw [List.isEmpty_iff.1 hempty]
      exact of_all (by decide)
  · have hall := intercalate " | " (of_all (by decide)) TypeScript.typeRef types fun t ht =>
      typeRef fun n hn => h n (List.mem_filterMap.2 ⟨t, ht, hn⟩)
    rwa [← List.filterMap_eq_flatMap_toList] at hall

end IsCode

/-! ## Declarations -/

/-- The names in the declaration are identifiers, and literals stand in its total type only. -/
structure Declaration.Plain (d : Declaration) : Prop where
  names : ∀ n ∈ d.names, IsIdentifier n
  ranges : ∀ b, d.base = some b → ∀ m ∈ b.members, ∀ text, .literal text ∉ m.range

namespace Prints

variable {hasRole : Bool}

theorem member {m : Member} (hnames : ∀ n ∈ m.range.filterMap TypeRef.name?, IsIdentifier n)
    (hrange : ∀ text, .literal text ∉ m.range) :
    Prints (member hasRole m) (member hasRole m.withoutComment) (m.quoted hasRole) := by
  have htexts : m.range.filterMap TypeRef.text? = [] := by
    refine List.filterMap_eq_nil_iff.2 fun t ht => ?_
    cases t with
    | literal text => exact absurd ht (hrange text)
    | _ => rfl
  have hunion := IsCode.union hnames
  rw [htexts] at hunion
  have hindent : IsCode "    ".toList [] := IsCode.of_all (by decide)
  have hopen : IsCode "?: SchemaValue<".toList [] := IsCode.of_all (by decide)
  have hcomma : IsCode ", ".toList [] := IsCode.of_all (by decide)
  have hclose : IsCode ">;".toList [] := IsCode.of_all (by decide)
  have hkey := IsCode.quote m.key
  have hstart := (hindent.append_string hkey).append_string hopen
  have hdoc := doc "    " eq_of_mem_indent m.comment
  cases hasRole with
  | false => exact hdoc.append (line ((hstart.append_string hunion).append_string hclose))
  | true =>
      have hvalue := (hunion.append_string hcomma).append_string hkey
      exact hdoc.append (line ((hstart.append_string hvalue).append_string hclose))

theorem base {b : Base} (hnames : ∀ n ∈ b.names, IsIdentifier n)
    (hranges : ∀ m ∈ b.members, ∀ text, .literal text ∉ m.range) :
    Prints (base hasRole b) (base hasRole b.withoutComments)
      (b.members.flatMap (Member.quoted hasRole)) := by
  have hname : IsIdentifier b.name := hnames _ List.mem_cons_self
  have hheritage : IsCode (heritage b.heritage).toList [] := by
    have hall : ∀ n ∈ b.heritage.names, IsIdentifier n := fun n hn =>
      hnames n (List.mem_cons_of_mem _ (List.mem_append_left _ hn))
    cases hb : b.heritage with
    | referenceable => exact IsCode.of_all (by decide)
    | parents names => exact IsCode.names names (by rw [hb] at hall; exact hall)
  have hinterface : IsCode "interface ".toList [] := IsCode.of_all (by decide)
  have hextends : IsCode " extends ".toList [] := IsCode.of_all (by decide)
  have hopen : IsCode " \x7b".toList [] := IsCode.of_all (by decide)
  have hclose : IsCode "\x7d".toList [] := IsCode.of_all (by decide)
  have hheader := (((hinterface.append_string (IsCode.of_isIdentifier hname)).append_string
    hextends).append_string hheritage).append_string hopen
  have hmembers : Prints (b.members.flatMap (TypeScript.member hasRole))
      (b.members.flatMap fun m => TypeScript.member hasRole m.withoutComment)
      (b.members.flatMap (Member.quoted hasRole)) := by
    refine flatMap b.members fun m hm => member (fun n hn => hnames n ?_) (hranges m hm)
    exact List.mem_append_right _ (List.mem_flatMap.2 ⟨m, hm, hn⟩)
  rw [TypeScript.base, TypeScript.base, Base.withoutComments, List.flatMap_map]
  have hall := ((line hheader).append hmembers).append (line hclose)
  rwa [List.append_nil] at hall

theorem leaf {l : Leaf} (hnames : ∀ n ∈ l.names, IsIdentifier n) :
    Prints (leaf l) (leaf l) ["@type", l.discriminator] := by
  have hname : IsIdentifier l.name := hnames _ List.mem_cons_self
  have hbases : ∀ n ∈ l.bases, IsIdentifier n := fun n hn => hnames n (List.mem_cons_of_mem _ hn)
  have hinterface : IsCode "interface ".toList [] := IsCode.of_all (by decide)
  have hopen : IsCode " \x7b".toList [] := IsCode.of_all (by decide)
  have hclose : IsCode "\x7d".toList [] := IsCode.of_all (by decide)
  have hindent : IsCode "    ".toList [] := IsCode.of_all (by decide)
  have hcolon : IsCode ": ".toList [] := IsCode.of_all (by decide)
  have hend : IsCode ";".toList [] := IsCode.of_all (by decide)
  have hextended : IsCode (if l.bases.isEmpty then ""
      else " extends " ++ String.intercalate ", " l.bases).toList [] := by
    split
    · exact IsCode.of_all (by decide)
    · exact (IsCode.of_all (by decide)).append_string (IsCode.names l.bases hbases)
  have hheader := ((hinterface.append_string (IsCode.of_isIdentifier hname)).append_string
    hextended).append_string hopen
  -- the label is written out in the emitter, and a string token like any other
  have hlabel : IsCode "    \"@type\": ".toList ["@type"] := by
    rw [show "    \"@type\": " = "    " ++ Json.quote "@type" ++ ": " by decide +kernel]
    exact (hindent.append_string (IsCode.quote "@type")).append_string hcolon
  have htype := (hlabel.append_string (IsCode.quote l.discriminator)).append_string hend
  exact ((line hheader).append (line htype)).append (line hclose)

/-- Of a declaration, everything but its comments is printed. -/
theorem declaration {d : Declaration} (h : d.Plain) :
    Prints (declaration hasRole d) (declaration hasRole d.withoutComments) (d.quoted hasRole) := by
  have hident : IsIdentifier d.ident := h.names _ (by simp [Declaration.names])
  have hbase : Prints ((d.base.map (TypeScript.base hasRole)).getD [])
      ((d.withoutComments.base.map (TypeScript.base hasRole)).getD [])
      ((d.base.map fun b => b.members.flatMap (Member.quoted hasRole)).getD []) := by
    cases hb : d.base with
    | none =>
        rw [show d.withoutComments.base = none by simp [Declaration.withoutComments, hb]]
        exact nil
    | some b =>
        rw [show d.withoutComments.base = some b.withoutComments by
          simp [Declaration.withoutComments, hb]]
        refine base (fun n hn => h.names n ?_) (h.ranges b hb)
        simp [Declaration.names, hb, hn]
  have hleaf : Prints ((d.leaf.map TypeScript.leaf).getD []) ((d.leaf.map TypeScript.leaf).getD [])
      ((d.leaf.map fun l => ["@type", l.discriminator]).getD []) := by
    cases hl : d.leaf with
    | none => exact nil
    | some l =>
        refine leaf fun n hn => h.names n ?_
        simp [Declaration.names, hl, hn]
  have hdoc := doc "" (by simp) d.comment
  have htotal : IsCode (union d.total).toList _ := IsCode.union fun n hn => h.names n (by
    rw [Declaration.names]
    exact List.mem_append_right _ (List.mem_cons_of_mem _ hn))
  have htype : IsCode "export type ".toList [] := IsCode.of_all (by decide)
  have hequals : IsCode " = ".toList [] := IsCode.of_all (by decide)
  have hend : IsCode ";".toList [] := IsCode.of_all (by decide)
  have halias := (((htype.append_string (IsCode.of_isIdentifier hident)).append_string
    hequals).append_string htotal).append_string hend
  have hempty : Prints [""] [""] [] := line IsCode.nil
  have hall := ((hbase.append hleaf).append hdoc).append ((line halias).append hempty)
  have hquoted : d.quoted hasRole =
      (d.base.map fun b => b.members.flatMap (Member.quoted hasRole)).getD []
        ++ (d.leaf.map fun l => ["@type", l.discriminator]).getD [] ++ []
        ++ (d.total.filterMap TypeRef.text? ++ [] ++ []) := by
    simp only [Declaration.quoted, List.append_nil]
  rw [hquoted]
  exact hall

end Prints

/-! ## Helper declarations -/

/-- The lines of a helper declaration, without its comment. -/
def helperCode (h : Preamble) : Helper → List String
  | .idReference => (helper h .idReference).eraseIdx 1
  | .withContext => (helper h .withContext).tail
  | k => helper h k

/-- The lines of the helper declarations, without comments. -/
def preambleCode (h : Preamble) : List String := h.kinds.flatMap fun k => helperCode h k ++ [""]

namespace Prints

variable {h : Preamble}

theorem helper (hroot : ∀ n, h.root = some n → IsIdentifier n) (k : Helper) :
    ∃ texts, Prints (helper h k) (helperCode h k) texts := by
  have hindent : IsCode "    ".toList [] := IsCode.of_all (by decide)
  have hcolon : IsCode ": ".toList [] := IsCode.of_all (by decide)
  have hend : IsCode ";".toList [] := IsCode.of_all (by decide)
  have hclose : Prints ["\x7d;"] ["\x7d;"] [] := line (IsCode.of_all (by decide))
  have hroot : IsCode (h.root.getD "object").toList [] := by
    cases hr : h.root with
    | none => exact IsCode.of_all (by decide)
    | some n => exact IsCode.of_isIdentifier (hroot n hr)
  -- a context may be any value, with tokens of its own
  obtain ⟨texts, hvalue⟩ := Json.exists_isCode_chars h.context
  have hcontext : ∃ texts, IsCode ("    \"@context\": " ++ h.context.text ++ ";").toList texts := by
    rw [show "    \"@context\": " = "    " ++ Json.quote "@context" ++ ": " by decide +kernel]
    have hlabel := (hindent.append_string (IsCode.quote "@context")).append_string hcolon
    have hvalue : IsCode h.context.text.toList texts := by
      rw [Json.text, String.toList_ofList]
      exact hvalue
    exact ⟨_, (hlabel.append_string hvalue).append_string hend⟩
  obtain ⟨texts, hcontext⟩ := hcontext
  cases k with
  | schemaValue =>
      show ∃ texts,
        Prints (TypeScript.helper h .schemaValue) (TypeScript.helper h .schemaValue) texts
      rw [TypeScript.helper]
      split
      · exact ⟨_, (line (IsCode.of_all (by decide +kernel))).append
          (line (IsCode.of_all (by decide +kernel)))⟩
      · exact ⟨_, line (IsCode.of_all (by decide +kernel))⟩
  | idReference =>
      have hopen : Prints ["type IdReference = \x7b"] ["type IdReference = \x7b"] [] :=
        line (IsCode.of_all (by decide +kernel))
      have hdoc := doc "    " eq_of_mem_indent
        (some "IRI identifying the canonical address of this object.")
      have hid : IsCode "    \"@id\": string;".toList ["@id"] := by
        rw [show "    \"@id\": string;" = "    " ++ Json.quote "@id" ++ ": string;" by
          decide +kernel]
        exact (hindent.append_string (IsCode.quote "@id")).append_string
          (b := ": string;") (IsCode.of_all (by decide))
      exact ⟨_, (hopen.append hdoc).append ((line hid).append hclose)⟩
  | withContext =>
      have hdoc := doc "" (by simp)
        (some "Used at the top-level node to indicate the context for the JSON-LD objects used.")
      have hstart : IsCode "export type WithContext<T extends ".toList [] :=
        IsCode.of_all (by decide +kernel)
      have hheader := (hstart.append_string hroot).append_string (b := "> = T & \x7b")
        (IsCode.of_all (by decide))
      exact ⟨_, hdoc.append (((line hheader).append (line hcontext)).append hclose)⟩
  | graph =>
      have hopen : Prints ["export interface Graph \x7b"] ["export interface Graph \x7b"] [] :=
        line (IsCode.of_all (by decide +kernel))
      have hobjects : IsCode ("    \"@graph\": readonly " ++ h.root.getD "object" ++ "[];").toList
          ["@graph"] := by
        rw [show "    \"@graph\": readonly " = "    " ++ Json.quote "@graph" ++ ": readonly " by
          decide +kernel]
        have hlabel := (hindent.append_string (IsCode.quote "@graph")).append_string
          (b := ": readonly ") (IsCode.of_all (by decide))
        exact (hlabel.append_string hroot).append_string (b := "[];") (IsCode.of_all (by decide))
      exact ⟨_, (hopen.append (line hcontext)).append
        ((line hobjects).append (line (l := "\x7d") (IsCode.of_all (by decide))))⟩

end Prints

/-! ## The text of an ontology -/

/-- A compiled ontology as TypeScript. -/
def Compiled.typeScript (r : Compiled) : String := (Writer.emit { format := .typeScript } r).1

/-- The lines of a compiled ontology. -/
def Compiled.lines (r : Compiled) : List String :=
  (r.preamble.kinds.flatMap fun k => helper r.preamble k ++ [""])
    ++ r.declarations.flatMap (declaration r.preamble.hasRole)

/-- The lines of a compiled ontology, without comments. -/
def Compiled.code (r : Compiled) : List String :=
  preambleCode r.preamble
    ++ r.declarations.flatMap fun d => declaration r.preamble.hasRole d.withoutComments

theorem typeScript_eq_unlines (r : Compiled) : r.typeScript = unlines r.lines := by
  have hdeclarations : ∀ (ds : List Declaration) (w : Writer), w.format = .typeScript →
      (w.declarations ds).1 = unlines (ds.flatMap (declaration w.hasRole)) := by
    intro ds
    induction ds with
    | nil => exact fun w _ => rfl
    | cons d ds ih =>
        intro w hw
        rw [List.flatMap_cons, unlines_append, Writer.declarations]
        have hrest := ih (w.declaration d).2 hw
        simp only [Writer.declaration, hw] at hrest ⊢
        rw [hrest]
        rfl
  rw [Compiled.lines, unlines_append, ← hdeclarations _
    { format := .typeScript, hasRole := r.preamble.hasRole } rfl]
  rfl

/-- The ontology with these declarations in place of its own. -/
def Compiled.declaring (r : Compiled) (ds : List Declaration) : Compiled :=
  { r with declarations := ds }

theorem Compiled.prints {r : Compiled} (hroot : ∀ n, r.preamble.root = some n → IsIdentifier n) :
    ∃ texts, ∀ ds, (∀ d ∈ ds, d.Plain) → Prints (r.declaring ds).lines (r.declaring ds).code
      (texts ++ ds.flatMap (Declaration.quoted r.preamble.hasRole)) := by
  have hhelpers : ∀ ks : List Helper, ∃ texts,
      Prints (ks.flatMap fun k => helper r.preamble k ++ [""])
        (ks.flatMap fun k => helperCode r.preamble k ++ [""]) texts := by
    intro ks
    induction ks with
    | nil => exact ⟨[], Prints.nil⟩
    | cons k ks ih =>
        obtain ⟨texts, htexts⟩ := Prints.helper hroot k
        obtain ⟨texts', htexts'⟩ := ih
        exact ⟨_, (htexts.append (Prints.line (l := "") IsCode.nil)).append htexts'⟩
  obtain ⟨texts, htexts⟩ := hhelpers r.preamble.kinds
  exact ⟨texts, fun ds hds => htexts.append (Prints.flatMap ds fun d hd =>
    Prints.declaration (hds d hd))⟩

/-! ## Containment -/

/-- Every text of the ontology stays in its place. -/
structure Compiled.Contained (r : Compiled) : Prop where
  /-- The scanner is in code after the helpers, and after every declaration. -/
  code : ∀ ds rest, ds ++ rest = r.declarations →
    (scan (r.declaring ds).typeScript).mode = .code ∧
      ∃ more, r.typeScript = (r.declaring ds).typeScript ++ more
  /-- Names are identifiers. -/
  root : ∀ n, r.preamble.root = some n → IsIdentifier n
  names : ∀ d ∈ r.declarations, ∀ n ∈ d.names, IsIdentifier n
  /-- The string tokens of a declaration are read as what it quotes. -/
  tokens : ∀ ds d rest, ds ++ d :: rest = r.declarations → ∃ tokens,
    (scan (r.declaring (ds ++ [d])).typeScript).tokens =
        (scan (r.declaring ds).typeScript).tokens ++ tokens ∧
      tokens.map Json.unescape? =
        (d.quoted r.preamble.hasRole).map fun text => some text.toList
  /-- Without comments and blank lines, the text is what the declarations are without comments,
      whatever the comments say. -/
  comments : ∀ ds, ds.map Declaration.withoutComments =
      r.declarations.map Declaration.withoutComments →
    codeLines (r.declaring ds).typeScript =
      (r.code.map String.toList).filter (!isBlankLine ·)

theorem Declaration.names_withoutComments (d : Declaration) :
    d.withoutComments.names = d.names := by
  have hbase : ∀ b : Base, b.withoutComments.names = b.names := by
    intro b
    rw [Base.names, Base.withoutComments, List.flatMap_map]
    rfl
  rw [Declaration.names, Declaration.names, Declaration.withoutComments, Option.map_map,
    show Base.names ∘ Base.withoutComments = Base.names from funext hbase]

theorem Declaration.Plain.congr {d d' : Declaration} (h : d.Plain)
    (heq : d'.withoutComments = d.withoutComments) : d'.Plain where
  names n hn := by
      rw [← names_withoutComments, heq, names_withoutComments] at hn
      exact h.names n hn
  ranges b hb m hm text htext := by
      have hbases := congrArg Declaration.base heq
      simp only [Declaration.withoutComments, hb, Option.map_some] at hbases
      obtain ⟨b', hb', hmembers⟩ := Option.map_eq_some_iff.1 hbases.symm
      have hm' := List.mem_map_of_mem (f := Member.withoutComment) hm
      rw [show b.members.map Member.withoutComment = b'.members.map Member.withoutComment from
        congrArg Base.members hmembers.symm] at hm'
      obtain ⟨m', hmem, hsame⟩ := List.mem_map.1 hm'
      have hrange : m.withoutComment.range = m'.withoutComment.range := by rw [hsame]
      exact h.ranges b' hb' m' hmem text (hrange ▸ htext)

theorem plain_of_compile {o : Options} {ss : List Statement} {r : Compiled}
    (h : compile o ss = .ok r) : ∀ d ∈ r.declarations, d.Plain := fun _ hd =>
  ⟨fun _ hn => isIdentifier_of_mem_names h hd hn,
    fun _ hb _ hm text => literal_notMem_range h hd hb hm text⟩

/-- What a scan finds if these declarations stand in place of those of the ontology. -/
theorem scan_declaring {o : Options} {ss : List Statement} {r : Compiled}
    (h : compile o ss = .ok r) : ∃ texts, ∀ ds, (∀ d ∈ ds, d.Plain) →
      (scan (r.declaring ds).typeScript).mode = .code ∧
        (scan (r.declaring ds).typeScript).tokens =
          (texts ++ ds.flatMap (Declaration.quoted r.preamble.hasRole)).map inside ∧
        codeLines (r.declaring ds).typeScript =
          ((r.declaring ds).code.map String.toList).filter (!isBlankLine ·) := by
  obtain ⟨texts, hprints⟩ := Compiled.prints (r := r) fun n => isIdentifier_of_root h
  refine ⟨texts, fun ds hds => ?_⟩
  rw [typeScript_eq_unlines]
  exact (hprints ds hds).scan_eq

/-- **No text of an ontology gets out of its place** in its TypeScript. -/
theorem contained_of_compile {o : Options} {ss : List Statement} {r : Compiled}
    (h : compile o ss = .ok r) : r.Contained := by
  have hplain := plain_of_compile h
  obtain ⟨texts, hscan⟩ := scan_declaring h
  constructor
  case code =>
    intro ds rest hrest
    refine ⟨(hscan ds fun d hd => hplain d (hrest ▸ List.mem_append_left rest hd)).1, ?_⟩
    rw [typeScript_eq_unlines, typeScript_eq_unlines, Compiled.lines, ← hrest, List.flatMap_append,
      ← List.append_assoc, unlines_append]
    exact ⟨_, rfl⟩
  case root => exact fun n => isIdentifier_of_root h
  case names => exact fun d hd n => isIdentifier_of_mem_names h hd
  case tokens =>
    intro ds d rest hrest
    have hmem : ∀ d' ∈ ds ++ [d], d'.Plain := fun d' hd' => hplain d' (by
      rw [← hrest]
      simp only [List.mem_append, List.mem_cons, List.not_mem_nil, or_false] at hd' ⊢
      exact hd'.imp_right Or.inl)
    refine ⟨(d.quoted r.preamble.hasRole).map inside, ?_, ?_⟩
    · rw [(hscan _ hmem).2.1, (hscan ds fun d' hd' => hmem d' (List.mem_append_left _ hd')).2.1,
        List.flatMap_append, ← List.append_assoc]
      refine List.map_append.trans ?_
      rw [List.flatMap_singleton]
    · rw [List.map_map]
      exact List.map_congr_left fun text _ => Json.unescape?_flatMap_escape text.toList
  case comments =>
    intro ds hds
    -- nothing but comments is different, so these declarations are plain as well
    have hmem : ∀ d' ∈ ds, d'.Plain := by
      intro d' hd'
      have hd := List.mem_map_of_mem (f := Declaration.withoutComments) hd'
      rw [hds] at hd
      obtain ⟨d, hd, heq⟩ := List.mem_map.1 hd
      exact (hplain d hd).congr heq.symm
    rw [(hscan ds hmem).2.2, Compiled.code, Compiled.code]
    have hlines : ∀ ds : List Declaration,
        (ds.flatMap fun d => declaration r.preamble.hasRole d.withoutComments) =
          (ds.map Declaration.withoutComments).flatMap (declaration r.preamble.hasRole) :=
      fun ds => (List.flatMap_map ..).symm
    rw [hlines r.declarations, ← hds, ← hlines]
    rfl

/-- An ontology whose comments and names look like code. -/
def mischievousStatements : List Statement :=
  let term := Edition.https.term
  let commented (a : Iri) (text : String) : Statement :=
    { subject := a, predicate := rdfsComment, object := .literal text none }
  [{ subject := term "%22", predicate := rdfType, object := .entity rdfsClass },
   commented (term "%22") "*/ \"\n/*",
   { subject := term "a%5C%22%2F%2A", predicate := rdfType, object := .entity rdfProperty },
   commented (term "a%5C%22%2F%2A") "*/ export type Person = never; // \"",
   { subject := term "a%5C%22%2F%2A", predicate := term "domainIncludes",
     object := .entity (term "%22") },
   { subject := term "b%0A%22", predicate := rdfType, object := .entity (term "%22") }]

theorem contained_mischievousStatements :
    ∃ r, compile {} mischievousStatements = .ok r ∧ r.Contained ∧
      ∃ d ∈ r.declarations, d.comment = some "*/ \"\n/*" ∧
        d.quoted false = ["a\\\"/*", "@type", "\"", "b\n\"", "https://schema.org/b%0A%22"] := by
  have hall : (compile {} mischievousStatements).map (fun r =>
      r.declarations.getLast?.map fun d => (d.comment, d.quoted false)) =
        .ok (some (some "*/ \"\n/*",
          ["a\\\"/*", "@type", "\"", "b\n\"", "https://schema.org/b%0A%22"])) := by
    decide +kernel
  obtain ⟨r, hr, hlast⟩ := exists_of_map_eq_ok hall
  obtain ⟨d, hd, hparts⟩ := Option.map_eq_some_iff.1 hlast
  exact ⟨r, hr, contained_of_compile hr, d, List.mem_of_getLast? hd, Prod.mk.inj hparts⟩

end Ontotype

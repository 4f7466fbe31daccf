import Ontotype.Context
import Ontotype.Proofs.Iri.Parts
import Mathlib.Data.List.Forall2

set_option autoImplicit false

/-! # IRIs put together from components

An IRI that names something in a namespace, and the URL by which a context gives a namespace, are
taken apart by different functions, which cut at the same marks in different orders. They agree on
what a namespace is: each gets back the components that the text was put together from. So the short
name of an entity can be told from components alone (`scopedName_by_components`). -/

namespace Ontotype

open Ontotype.Text

namespace Iri

/-! ## Components -/

/-- A namespace, given by its components. Each is free of the marks that would end it, and a path
    that is not empty starts with a slash. -/
structure Namespace where
  scheme : String
  authority : String
  path : String
  query : Option String
  scheme_ne : scheme ≠ ""
  scheme_free : ¬ "://".toList <:+: scheme.toList
  authority_free : authority.toList.all (!endsAuthority ·) = true
  path_rooted : path = "" ∨ path.toList.head? = some '/'
  path_free : '?' ∉ path.toList ∧ '#' ∉ path.toList
  query_free : ∀ q ∈ query, '#' ∉ q.toList

/-- A part behind its mark; nothing if there is no such part. -/
def withMark (mark : String) : Option String → String
  | none => ""
  | some part => mark ++ part

namespace Namespace

variable (n : Namespace)

/-- Scheme, authority and path. -/
def root : String := n.scheme ++ "://" ++ n.authority ++ n.path

/-- The IRI names something in the namespace by its last segment, or by a fragment. -/
inductive Composes (name : String) : Iri → Prop
  | segment (h : IsSegment name) :
      Composes name ⟨n.root ++ "/" ++ name ++ withMark "?" n.query⟩
  | fragment (h : name ≠ "") :
      Composes name ⟨n.root ++ withMark "?" n.query ++ "#" ++ name⟩

/-- The URL of the namespace, with a fragment that does not count. -/
def url (fragment : Option String) : String :=
  n.root ++ withMark "?" n.query ++ withMark "#" fragment

end Namespace

/-- The path without the slashes at its end. -/
def IsStem (path stem : String) : Prop :=
  (∃ k, path = stem ++ String.ofList (List.replicate k '/')) ∧ stem.toList.getLast? ≠ some '/'

/-- The characters are the same, or an ASCII letter in its two cases. -/
def SameLetter (c d : Char) : Prop :=
  c = d ∨ c.isUpper = true ∧ d.toNat = c.toNat + 32 ∨ d.isUpper = true ∧ c.toNat = d.toNat + 32

/-- The texts are the same but for the case of ASCII letters. -/
def SameButForCase (a b : String) : Prop := List.Forall₂ SameLetter a.toList b.toList

/-- What lives in the namespace `n` counts as living in `m`. An `https:` namespace holds `http:`
    names too, and not the other way round. -/
structure Namespace.LivesIn (n m : Namespace) : Prop where
  scheme : SameButForCase n.scheme m.scheme ∨
    SameButForCase n.scheme "http" ∧ SameButForCase m.scheme "https"
  authority : SameButForCase n.authority m.authority
  path : ∃ stem, IsStem n.path stem ∧ IsStem m.path stem
  query : n.query = m.query

/-! ## Stems and cases -/

theorem isStem_iff {path stem : String} :
    IsStem path stem ↔ String.ofList (trimSlashes path.toList) = stem := by
  constructor
  · rintro ⟨⟨k, rfl⟩, hlast⟩
    rw [String.toList_append, String.toList_ofList, trimSlashes_append_replicate hlast,
      String.ofList_toList]
  · rintro rfl
    obtain ⟨k, hpath⟩ := exists_eq_trimSlashes_append path.toList
    refine ⟨⟨k, ?_⟩, String.toList_ofList ▸ getLast?_trimSlashes path.toList⟩
    rw [← String.ofList_append, ← hpath, String.ofList_toList]

theorem isUpper_iff {c : Char} : c.isUpper = true ↔ 65 ≤ c.toNat ∧ c.toNat ≤ 90 := by
  have hdecide : c.isUpper = true ↔ 'A'.val ≤ c.val ∧ c.val ≤ 'Z'.val := decide_eq_true_iff
  rw [hdecide, UInt32.le_iff_toNat_le, UInt32.le_iff_toNat_le]
  rfl

theorem toNat_toLower (c : Char) :
    c.toLower.toNat = if c.isUpper = true then c.toNat + 32 else c.toNat := by
  by_cases hc : 'A'.val ≤ c.val ∧ c.val ≤ 'Z'.val
  · have hupper : c.isUpper = true := decide_eq_true hc
    have hle : c.toNat ≤ 90 := (isUpper_iff.1 hupper).2
    have hval : c.toLower.val = c.val + ('a'.val - 'A'.val) := congrArg Char.val (dif_pos hc)
    have hsum : (c.val + ('a'.val - 'A'.val)).toNat = (c.toNat + 32) % 2 ^ 32 := UInt32.toNat_add ..
    rw [if_pos hupper, ← Char.toNat_val, hval, hsum, Nat.mod_eq_of_lt (by omega)]
  · have hupper : ¬ c.isUpper = true := fun hupper => hc (of_decide_eq_true hupper)
    have hlower : c.toLower = c := dif_neg hc
    rw [if_neg hupper, hlower]

theorem toLower_eq_iff {c d : Char} : c.toLower = d.toLower ↔ SameLetter c d := by
  rw [SameLetter, ← Char.toNat_inj, ← Char.toNat_inj, toNat_toLower, toNat_toLower]
  simp only [isUpper_iff]
  split <;> split <;> omega

theorem sameIgnoringCase_iff {a b : String} :
    sameIgnoringCase a b = true ↔ SameButForCase a b := by
  rw [sameIgnoringCase, beq_iff_eq, SameButForCase, ← List.forall₂_eq_eq_eq,
    List.forall₂_map_left_iff, List.forall₂_map_right_iff]
  simp only [toLower_eq_iff]

/-! ## Reading components back -/

theorem toList_withMark (mark : Char) (part : Option String) :
    (withMark (String.singleton mark) part).toList = marked mark (part.map String.toList) := by
  cases part with
  | none => rfl
  | some part => simp [withMark, marked]

namespace Namespace

variable {n m : Namespace} {name : String} {iri : Iri}

/-- The path without the slashes at its end, as a text. -/
def stem (n : Namespace) : String := String.ofList (trimSlashes n.path.toList)

theorem isStem_stem (n : Namespace) : IsStem n.path n.stem := isStem_iff.2 rfl

theorem query_notMem (n : Namespace) : ∀ q ∈ n.query.map String.toList, '#' ∉ q := by
  intro q hq
  obtain ⟨query, hquery, rfl⟩ := Option.map_eq_some_iff.1 hq
  exact n.query_free query hquery

theorem map_ofList_query (n : Namespace) :
    (n.query.map String.toList).map String.ofList = n.query := by
  simp [Function.comp_def]

/-- Scheme and authority are told from all that can follow the path. -/
theorem hierarchical?_root (n : Namespace) {rest : List Char}
    (hrest : ∀ c ∈ rest.head?, endsAuthority c = true) :
    hierarchical? (n.root.toList ++ rest) =
      some (n.scheme.toList, n.authority.toList, n.path.toList ++ rest) := by
  have hscheme : n.scheme.toList ≠ [] := by simpa using n.scheme_ne
  have hpath : ∀ c ∈ (n.path.toList ++ rest).head?, endsAuthority c = true := by
    intro c hc
    rcases n.path_rooted with hempty | hslash
    · rw [hempty] at hc
      exact hrest c hc
    · rw [List.head?_append, hslash, Option.some_or] at hc
      obtain rfl : '/' = c := Option.some.inj hc
      rfl
  have hroot : n.root.toList ++ rest =
      n.scheme.toList ++ "://".toList ++ (n.authority.toList ++ (n.path.toList ++ rest)) := by
    simp [root]
  rw [hroot, hierarchical?_append hscheme n.scheme_free
    (free_of_all n.authority_free) hpath]

theorem parts?_of_composes (h : n.Composes name iri) : iri.parts? =
    some { scheme := n.scheme, authority := n.authority, namespacePath := n.stem,
           query := n.query, localName := name } := by
  cases h with
  | segment h =>
      have htext : (n.root ++ "/" ++ name ++ withMark "?" n.query).toList =
          n.root.toList ++ ('/' :: name.toList ++ marked '?' (n.query.map String.toList)) := by
        simp [← toList_withMark]
      have hsplit := splitRest_segment n.path_free h.free n.query_notMem
      rw [List.append_assoc] at hsplit
      rw [parts?, htext, hierarchical?_root n (by simp [endsAuthority]), Option.map_some]
      simp only [hsplit, String.ofList_toList, map_ofList_query, stem]
  | fragment h =>
      have htext : (n.root ++ withMark "?" n.query ++ "#" ++ name).toList =
          n.root.toList ++ (marked '?' (n.query.map String.toList) ++ '#' :: name.toList) := by
        simp [← toList_withMark]
      have hrest : ∀ c ∈ (marked '?' (n.query.map String.toList) ++ '#' :: name.toList).head?,
          endsAuthority c = true := by
        cases n.query <;> simp [marked, endsAuthority]
      have hname : name.toList ≠ [] := fun hnil => h (String.toList_eq_nil_iff.1 hnil)
      have hsplit := splitRest_fragment n.path_free hname n.query_notMem
      rw [List.append_assoc] at hsplit
      rw [parts?, htext, hierarchical?_root n hrest, Option.map_some]
      simp only [hsplit, String.ofList_toList, map_ofList_query, stem]

theorem ofUrl?_url (hosted : n.authority ≠ "" ∨ n.scheme = "file") (fragment : Option String) :
    Base.ofUrl? (n.url fragment) =
      some { scheme := n.scheme, authority := n.authority, path := n.stem, query := n.query } := by
  have htext : (n.url fragment).toList = n.root.toList ++
      (marked '?' (n.query.map String.toList) ++ marked '#' (fragment.map String.toList)) := by
    simp [url, ← toList_withMark]
  have hrest : ∀ c ∈ (marked '?' (n.query.map String.toList) ++
      marked '#' (fragment.map String.toList)).head?, endsAuthority c = true := by
    cases n.query <;> cases fragment <;> simp [marked, endsAuthority]
  have hhash : '#' ∉ n.path.toList ++ marked '?' (n.query.map String.toList) :=
    notMem_append_marked n.path_free.2 (by decide) n.query_notMem
  have hauthority : ¬ (n.authority.toList = [] ∧ n.scheme.toList ≠ "file".toList) := by
    rw [String.toList_eq_nil_iff, Ne, String.toList_inj]
    tauto
  rw [Base.ofUrl?, htext, hierarchical?_root n hrest, ← List.append_assoc]
  simp only [if_neg hauthority, cut_append_marked hhash, cut_append_marked n.path_free.1,
    String.ofList_toList, map_ofList_query, stem]

/-! ## Comparing namespaces -/

/-- The parts of a name and a base URL that are read back match if the name's namespace lives in
    the other. -/
theorem within_iff (name : String) : Parts.within
    { scheme := n.scheme, authority := n.authority, namespacePath := n.stem, query := n.query,
      localName := name }
    { scheme := m.scheme, authority := m.authority, path := m.stem, query := m.query } = true ↔
      n.LivesIn m := by
  have hstem : n.stem = m.stem ↔ ∃ stem, IsStem n.path stem ∧ IsStem m.path stem := by
    constructor
    · exact fun heq => ⟨n.stem, n.isStem_stem, heq ▸ m.isStem_stem⟩
    · rintro ⟨_, hn, hm⟩
      exact (isStem_iff.1 hn).trans (isStem_iff.1 hm).symm
  simp only [Parts.within, Bool.and_eq_true, Bool.or_eq_true, beq_iff_eq, sameIgnoringCase_iff,
    hstem]
  constructor
  · rintro ⟨⟨⟨hscheme, hauthority⟩, hpath⟩, hquery⟩
    exact ⟨hscheme, hauthority, hpath, hquery⟩
  · exact fun h => ⟨⟨⟨h.scheme, h.authority⟩, h.path⟩, h.query⟩

instance : Decidable (n.LivesIn m) := decidable_of_iff _ (within_iff "")

end Namespace

end Iri

/-! ## Short names -/

open Iri

/-- An entry of a context whose URL is put together from components. Only a file has an empty
    authority. -/
structure Context.Naming where
  label : String
  base : Namespace
  fragment : Option String
  hosted : base.authority ≠ "" ∨ base.scheme = "file"

/-- The entry itself. -/
def Context.Naming.entry (e : Context.Naming) : Context.Entry :=
  { label := e.label, url := e.base.url e.fragment }

/-- The short name that an entry gives: the name, decoded, behind the label if there is one. -/
def Context.Naming.nameOf (e : Context.Naming) (name : String) : String :=
  if e.label = "" then Percent.decode name else e.label ++ ":" ++ Percent.decode name

section

variable {n : Namespace} {name : String} {iri : Iri}

theorem ne_empty_of_composes (h : n.Composes name iri) : name ≠ "" := by
  cases h with
  | segment h => exact h.1
  | fragment h => exact h

/-- The first entry counts whose namespace holds the name. -/
theorem scopedName_of_composes (h : n.Composes name iri) (es : List Context.Naming) :
    Context.scopedName ⟨es.map Context.Naming.entry⟩ iri =
      ((es.find? fun e => n.LivesIn e.base).map (·.nameOf name)).getD iri.text := by
  have hmatch : (fun e : Context.Entry => (Base.ofUrl? e.url).any (Parts.within
      { scheme := n.scheme, authority := n.authority, namespacePath := n.stem, query := n.query,
        localName := name })) ∘ Context.Naming.entry = fun e => decide (n.LivesIn e.base) := by
    funext e
    rw [Bool.eq_iff_iff, decide_eq_true_iff, ← Namespace.within_iff name]
    simp only [Function.comp_apply, Context.Naming.entry, Namespace.ofUrl?_url e.hosted,
      Option.any_some]
  rw [Context.scopedName, Namespace.parts?_of_composes h]
  simp only [if_neg (ne_empty_of_composes h), List.find?_map, hmatch]
  cases es.find? fun e => n.LivesIn e.base <;> rfl

end

/-- **Splitting undoes composing, and names are told by components.** The parts of an IRI that names
    something in a namespace, by its last segment or by a fragment, are the components of the
    namespace and the name; the base of a namespace's URL has the same components. Both leave the
    slashes at the end of the path out. So in a context of such URLs, the first entry counts that
    has the authority, the path, the query and the scheme of the namespace (`LivesIn`); without one
    the short name is the whole IRI. -/
theorem scopedName_by_components :
    (∀ (n : Namespace) (name : String) (iri : Iri), n.Composes name iri →
      ∃ stem, IsStem n.path stem ∧ iri.parts? =
        some { scheme := n.scheme, authority := n.authority, namespacePath := stem,
               query := n.query, localName := name }) ∧
    (∀ e : Context.Naming, ∃ stem, IsStem e.base.path stem ∧ Base.ofUrl? e.entry.url =
      some { scheme := e.base.scheme, authority := e.base.authority, path := stem,
             query := e.base.query }) ∧
    ∀ (n : Namespace) (name : String) (iri : Iri), n.Composes name iri →
      (∀ before e after, (∀ e' ∈ before, ¬ n.LivesIn e'.base) → n.LivesIn e.base →
        Context.scopedName ⟨(before ++ e :: after).map Context.Naming.entry⟩ iri =
          e.nameOf name) ∧
      ∀ es : List Context.Naming, (∀ e ∈ es, ¬ n.LivesIn e.base) →
        Context.scopedName ⟨es.map Context.Naming.entry⟩ iri = iri.text := by
  refine ⟨fun n name iri h => ⟨n.stem, n.isStem_stem, Namespace.parts?_of_composes h⟩,
    fun e => ⟨e.base.stem, e.base.isStem_stem, Namespace.ofUrl?_url e.hosted e.fragment⟩,
    fun n name iri h => ⟨fun before e after hbefore he => ?_, fun es hes => ?_⟩⟩
  · have hfind : (before ++ e :: after).find? (fun e => n.LivesIn e.base) = some e := by
      refine List.find?_eq_some_iff_append.2 ⟨decide_eq_true he, before, after, rfl, ?_⟩
      exact fun e' he' => by simpa using hbefore e' he'
    rw [scopedName_of_composes h, hfind]
    rfl
  · have hfind : es.find? (fun e => n.LivesIn e.base) = none :=
      List.find?_eq_none.2 fun e he => by simpa using hes e he
    rw [scopedName_of_composes h, hfind]
    rfl

/-- A namespace whose path ends with slashes and whose query holds one. -/
def versionedNamespace : Namespace where
  scheme := "HTTP"
  authority := "Example.org:8080"
  path := "/a//"
  query := some "v=1/2"
  scheme_ne := by decide
  scheme_free := by decide
  authority_free := by decide
  path_rooted := by decide
  path_free := by decide
  query_free := by decide

/-- Entries for the same namespace in another spelling, between one without the query and one for
    the `http:` names only. -/
def versionedEntries : List Context.Naming :=
  [{ label := "bare", base := { versionedNamespace with query := none, query_free := by decide }
     fragment := none, hosted := by decide },
   { label := "ex", fragment := some "top", hosted := by decide
     base := { versionedNamespace with
       scheme := "https", authority := "example.ORG:8080", path := "/a", scheme_ne := by decide
       scheme_free := by decide, authority_free := by decide, path_rooted := by decide
       path_free := by decide } },
   { label := "", base := versionedNamespace, fragment := none, hosted := by decide }]

theorem scopedName_by_components_versionedEntries :
    let iri : Iri := ⟨"HTTP://Example.org:8080/a///Big%20Term?v=1/2"⟩
    let secured : Namespace := { versionedNamespace with
      scheme := "https", scheme_ne := by decide, scheme_free := by decide }
    let term : Iri := ⟨"https://Example.org:8080/a//?v=1/2#Term/a?b#c"⟩
    versionedNamespace.Composes "Big%20Term" iri ∧ secured.Composes "Term/a?b#c" term ∧
      (∃ stem, IsStem "/a//" stem ∧ iri.parts? =
        some ⟨"HTTP", "Example.org:8080", stem, some "v=1/2", "Big%20Term"⟩) ∧
      Context.scopedName ⟨versionedEntries.map Context.Naming.entry⟩ iri = "ex:Big Term" ∧
      Context.scopedName ⟨versionedEntries.map Context.Naming.entry⟩ term = "ex:Term/a?b#c" ∧
      Context.scopedName ⟨(versionedEntries.drop 2).map Context.Naming.entry⟩ term = term.text := by
  intro iri secured term
  have hiri : versionedNamespace.Composes "Big%20Term" iri := .segment (by decide)
  have hterm : secured.Composes "Term/a?b#c" term := .fragment (by decide)
  obtain ⟨hparts, -, hnames⟩ := scopedName_by_components
  have hsplit : versionedEntries =
      versionedEntries.take 1 ++ versionedEntries[1] :: versionedEntries.drop 2 := rfl
  have hbig := (hnames _ _ _ hiri).1 (versionedEntries.take 1) versionedEntries[1]
    (versionedEntries.drop 2) (by decide) (by decide)
  have hfragment := (hnames _ _ _ hterm).1 (versionedEntries.take 1) versionedEntries[1]
    (versionedEntries.drop 2) (by decide) (by decide)
  rw [← hsplit] at hbig hfragment
  exact ⟨hiri, hterm, hparts _ _ _ hiri, hbig.trans (by decide +kernel),
    hfragment.trans (by decide +kernel), (hnames _ _ _ hterm).2 _ (by decide)⟩

end Ontotype

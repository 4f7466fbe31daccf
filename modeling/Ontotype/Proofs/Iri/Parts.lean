import Ontotype.Iri.Parts
import Mathlib.Data.List.DropRight
import Mathlib.Data.List.Infix

set_option autoImplicit false

/-! # Cutting what was put together

Each cut that is made of an IRI undoes one way of putting texts together, as long as what stands
before a mark is free of it: the scheme is cut off at `://`, the authority at the first character
that ends it, the fragment at `#`, the query at `?`, and the local name at the last slash. -/

namespace Ontotype.Iri

open Ontotype.Text

/-- A name that is one segment of a path. -/
def IsSegment (name : String) : Prop := name ≠ "" ∧ name.toList.all (!endsAuthority ·) = true

instance {name : String} : Decidable (IsSegment name) := inferInstanceAs (Decidable (_ ∧ _))

theorem free_of_all {cs : List Char} (h : cs.all (!endsAuthority ·) = true) :
    ∀ c ∈ cs, endsAuthority c = false := fun c hc => by
  simpa using List.all_eq_true.1 h c hc

theorem IsSegment.free {name : String} (h : IsSegment name) :
    ∀ c ∈ name.toList, endsAuthority c = false :=
  free_of_all h.2

variable {cs scheme authority path name rest : List Char} {query fragment : Option (List Char)}

/-! ## The scheme -/

/-- The mark `://` does not straddle the end of a text that is free of it. -/
theorem not_isPrefix_append_mark {c : Char} (h : ¬ "://".toList <:+: c :: scheme) :
    ¬ "://".toList <+: c :: (scheme ++ "://".toList ++ rest) := by
  rintro ⟨after, hafter⟩
  match scheme with
  | [] => simp at hafter
  | [d] => simp at hafter
  | d :: e :: scheme =>
      obtain ⟨rfl, rfl, rfl, _⟩ : ':' = c ∧ '/' = d ∧ '/' = e ∧ _ := by simpa using hafter
      exact h (List.prefix_append _ scheme).isInfix

theorem cutScheme?_cons {c : Char} (h : ¬ "://".toList <+: c :: cs) :
    cutScheme? (c :: cs) = (cutScheme? cs).map fun (scheme, after) => (c :: scheme, after) := by
  rw [cutScheme?]
  rintro after rfl rfl
  exact h (List.prefix_append _ after)

theorem cutScheme?_append (h : ¬ "://".toList <:+: scheme) :
    cutScheme? (scheme ++ "://".toList ++ rest) = some (scheme, rest) := by
  induction scheme with
  | nil => rfl
  | cons c scheme ih =>
      have hscheme : ¬ "://".toList <:+: scheme := fun hmark => h (List.infix_cons hmark)
      rw [List.cons_append, List.cons_append, cutScheme?_cons (not_isPrefix_append_mark h),
        ih hscheme, Option.map_some]

/-- The mark is found wherever it stands. -/
theorem isSome_cutScheme?_iff : (cutScheme? cs).isSome = true ↔ "://".toList <:+: cs := by
  induction cs with
  | nil => decide
  | cons c cs ih =>
      by_cases hmark : "://".toList <+: c :: cs
      · obtain ⟨after, hafter⟩ := hmark
        rw [← hafter]
        exact iff_of_true rfl (List.prefix_append _ after).isInfix
      · rw [cutScheme?_cons hmark, Option.isSome_map, ih, List.infix_cons_iff, or_iff_right hmark]

/-! ## The authority -/

/-- Scheme and authority are cut off before the first character that ends the authority. -/
theorem hierarchical?_append (hne : scheme ≠ []) (hscheme : ¬ "://".toList <:+: scheme)
    (hauthority : ∀ c ∈ authority, endsAuthority c = false)
    (hrest : ∀ c ∈ rest.head?, endsAuthority c = true) :
    hierarchical? (scheme ++ "://".toList ++ (authority ++ rest)) =
      some (scheme, authority, rest) := by
  have hall : ∀ c ∈ authority, (!endsAuthority c) = true := fun c hc => by
    rw [hauthority c hc]
    rfl
  have hend : rest.takeWhile (!endsAuthority ·) = [] ∧
      rest.dropWhile (!endsAuthority ·) = rest := by
    cases rest with
    | nil => exact ⟨rfl, rfl⟩
    | cons c rest =>
        have hc : ¬ (!endsAuthority c) = true := by simp [hrest c rfl]
        exact ⟨List.takeWhile_cons_of_neg hc, List.dropWhile_cons_of_neg hc⟩
  rw [hierarchical?, cutScheme?_append hscheme]
  dsimp only
  rw [if_neg hne, List.takeWhile_append_of_pos hall, List.dropWhile_append_of_pos hall, hend.1,
    hend.2, List.append_nil]

/-! ## Query and fragment -/

/-- What follows a mark, and the mark before it, if it is there. -/
def marked (mark : Char) (part : Option (List Char)) : List Char := part.elim [] (mark :: ·)

theorem cut_append_marked {mark : Char} (h : mark ∉ cs) (part : Option (List Char)) :
    cut mark (cs ++ marked mark part) = (cs, part) := by
  cases part with
  | none => rw [marked, Option.elim_none, List.append_nil, cut_of_not_mem cs h]
  | some part => exact cut_append_sep cs part h

theorem notMem_append_marked {mark c : Char} (hpath : c ∉ path) (hmark : c ≠ mark)
    (hquery : ∀ q ∈ query, c ∉ q) : c ∉ path ++ marked mark query := by
  cases query with
  | none => simpa [marked] using hpath
  | some q => simpa [marked, hpath, hmark] using hquery q rfl

/-! ## The path -/

theorem trimSlashes_eq (path : List Char) : trimSlashes path = path.rdropWhile (· = '/') := rfl

/-- Nothing but slashes is taken off. -/
theorem exists_eq_trimSlashes_append (path : List Char) :
    ∃ k, path = trimSlashes path ++ List.replicate k '/' := by
  have hslashes : ∀ c ∈ path.rtakeWhile (· = '/'), c = '/' := by
    intro c hc
    exact of_decide_eq_true (List.mem_rtakeWhile_imp (p := (· = '/')) hc)
  refine ⟨(path.rtakeWhile (· = '/')).length, ?_⟩
  rw [← List.eq_replicate_of_mem hslashes, trimSlashes_eq, List.rdropWhile_append_rtakeWhile]

/-- No slash is left at the end. -/
theorem getLast?_trimSlashes (path : List Char) : (trimSlashes path).getLast? ≠ some '/' := by
  intro hlast
  obtain ⟨hne, hslash⟩ := List.mem_getLast?_eq_getLast hlast
  exact List.rdropWhile_last_not (· = '/') path hne (decide_eq_true hslash.symm)

theorem trimSlashes_append_replicate {stem : List Char} (h : stem.getLast? ≠ some '/') (k : Nat) :
    trimSlashes (stem ++ List.replicate k '/') = stem := by
  induction k with
  | zero =>
      rw [List.replicate_zero, List.append_nil, trimSlashes_eq, List.rdropWhile_eq_self_iff]
      intro hne hslash
      exact h (List.getLast?_eq_some_getLast hne ▸ congrArg some (of_decide_eq_true hslash))
  | succ k ih =>
      rw [List.replicate_succ', ← List.append_assoc, trimSlashes_eq,
        List.rdropWhile_concat_pos _ _ _ (by simp), ← trimSlashes_eq, ih]

/-- The last segment of a path is a local name. -/
theorem splitRest_segment (hpath : '?' ∉ path ∧ '#' ∉ path)
    (hname : ∀ c ∈ name, endsAuthority c = false) (hquery : ∀ q ∈ query, '#' ∉ q) :
    splitRest (path ++ '/' :: name ++ marked '?' query) = (trimSlashes path, query, name) := by
  have hfree : ∀ mark, endsAuthority mark = true → mark ∉ name := fun mark hmark hmem =>
    absurd ((hname mark hmem).symm.trans hmark) (by decide)
  have hcut : ∀ mark, mark ∉ path → mark ≠ '/' → mark ∉ name → mark ∉ path ++ '/' :: name := by
    intro mark hpath hslash hname
    simp [hpath, hslash, hname]
  have hhash := hcut '#' hpath.2 (by decide) (hfree '#' (by decide))
  have hmark := hcut '?' hpath.1 (by decide) (hfree '?' (by decide))
  have hfragment : cut '#' (path ++ '/' :: name ++ marked '?' query) =
      (path ++ '/' :: name ++ marked '?' query, none) :=
    cut_of_not_mem _ (notMem_append_marked hhash (by decide) hquery)
  rw [splitRest, hfragment]
  simp only [cut_append_marked hmark, cutLast?_append_sep path name (hfree '/' (by decide))]

/-- A fragment that is not empty is a local name. -/
theorem splitRest_fragment (hpath : '?' ∉ path ∧ '#' ∉ path) (hname : name ≠ [])
    (hquery : ∀ q ∈ query, '#' ∉ q) :
    splitRest (path ++ marked '?' query ++ '#' :: name) = (trimSlashes path, query, name) := by
  have hhash : '#' ∉ path ++ marked '?' query := notMem_append_marked hpath.2 (by decide) hquery
  obtain ⟨c, name, rfl⟩ := List.exists_cons_of_ne_nil hname
  rw [splitRest, cut_append_sep _ _ hhash]
  simp only [cut_append_marked hpath.1]

end Ontotype.Iri

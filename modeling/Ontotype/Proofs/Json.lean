import Ontotype.Json
import Mathlib.Data.List.Basic

set_option autoImplicit false

/-! # String tokens and objects

A string token is read one character at a time. The reader stands between two characters of the
text, after a backslash, inside the four digits of a code unit, or after a high surrogate, which
only a low one may follow. What is quoted is read back as it was (`Json.unescape?_flatMap_escape`),
since an escaped character is either itself or a backslash and what follows it
(`Json.escape_cases`). An object that is built by name holds the members that it is built from, if
their names are different (`Json.exists_sorted_eq`). -/

namespace Ontotype.Json

open Ontotype.Text

/-! ## The reader -/

/-- Where the reader stands. A high surrogate that was read before is kept until its low one is. -/
inductive Unescape where
  | between
  | backslash (high : Option Nat)
  | digits (high : Option Nat) (owed value : Nat)
  | surrogate (high : Nat)
  deriving DecidableEq, Repr

/-- The character that a backslash and one other character stand for. -/
def shortEscape? : Char → Option Char
  | '"' => some '"'
  | '\\' => some '\\'
  | '/' => some '/'
  | 'b' => some '\x08'
  | 'f' => some '\x0c'
  | 'n' => some '\n'
  | 'r' => some '\r'
  | 't' => some '\t'
  | _ => none

/-- What a code unit completes, and where it leaves the reader. -/
def Unescape.codeUnit : Option Nat → Nat → Option (List Char × Unescape)
  | none, n =>
    if n < 0xD800 ∨ 0xDFFF < n then some ([Char.ofNat n], .between)
    else if n < 0xDC00 then some ([], .surrogate n)
    else none
  | some high, n =>
    if 0xDC00 ≤ n ∧ n ≤ 0xDFFF then
      some ([Char.ofNat (0x10000 + 0x400 * (high - 0xD800) + (n - 0xDC00))], .between)
    else none

/-- One character of the token: what it completes, and where it leaves the reader. -/
def Unescape.step : Unescape → Char → Option (List Char × Unescape)
  | .between, c =>
    if c = '\\' then some ([], .backslash none)
    else if c = '"' ∨ c.toNat < 0x20 then none
    else some ([c], .between)
  | .backslash none, c =>
    if c = 'u' then some ([], .digits none 4 0) else (shortEscape? c).map fun x => ([x], .between)
  | .backslash (some high), c => if c = 'u' then some ([], .digits (some high) 4 0) else none
  | .digits high owed value, c =>
    (hexValue? c).bind fun digit =>
      if owed = 1 then codeUnit high (16 * value + digit)
      else some ([], .digits high (owed - 1) (16 * value + digit))
  | .surrogate high, c => if c = '\\' then some ([], .backslash (some high)) else none

/-- Reads a token from where the reader stands. -/
def Unescape.run : Unescape → List Char → Option (List Char)
  | .between, [] => some []
  | _, [] => none
  | q, c :: rest => (q.step c).bind fun (read, q) => (q.run rest).map (read ++ ·)

/-- The text that stands between the quotes of a string token; none if it is not well-formed. -/
def unescape? (cs : List Char) : Option (List Char) := Unescape.between.run cs

/-! ## Escaped characters -/

/-- An escaped character is the character itself, or a backslash, one more character, and others
    that are nothing special. -/
theorem escape_cases (c : Char) :
    escape c = [c] ∧ c ≠ '"' ∧ c ≠ '\\' ∧ 0x20 ≤ c.toNat ∨
      ∃ x rest, escape c = '\\' :: x :: rest ∧ x ≠ '\n' ∧
        ∀ y ∈ rest, y ≠ '"' ∧ y ≠ '\\' ∧ y ≠ '\n' := by
  have hdigit : ∀ n < 16, Nat.digitChar n ≠ '"' ∧ Nat.digitChar n ≠ '\\' ∧
      Nat.digitChar n ≠ '\n' := by decide
  unfold escape
  split
  case h_8 hquote hbackslash _ _ _ _ _ =>
    split
    · next hcontrol =>
        refine Or.inr ⟨'u', _, rfl, by decide, ?_⟩
        simp only [List.forall_mem_cons]
        refine ⟨by decide, by decide, hdigit _ (by omega), hdigit _ (by omega), by simp⟩
    · next hcontrol => exact Or.inl ⟨rfl, hquote, hbackslash, by omega⟩
  all_goals exact Or.inr ⟨_, [], rfl, by decide, by simp⟩

theorem hexValue?_digitChar : ∀ n < 16, hexValue? (Nat.digitChar n) = some n := by decide

/-- An escaped character is read back, and the reader stands where it stood. -/
theorem run_escape (c : Char) (rest : List Char) :
    Unescape.between.run (escape c ++ rest) = (Unescape.between.run rest).map (c :: ·) := by
  unfold escape
  split
  case h_8 hquote hbackslash _ _ _ _ _ =>
    split
    · next hlt =>
        have hhigh := hexValue?_digitChar (c.toNat / 16) (by omega)
        have hlow := hexValue?_digitChar (c.toNat % 16) (by omega)
        have hzero : hexValue? '0' = some 0 := by decide
        have hvalue : 16 * (c.toNat / 16) + c.toNat % 16 = c.toNat := Nat.div_add_mod _ _
        have hunit : Unescape.codeUnit none c.toNat = some ([c], .between) := by
          rw [Unescape.codeUnit, if_pos (by omega), Char.ofNat_toNat]
        simp [Unescape.run, Unescape.step, Function.comp_def, hhigh, hlow, hzero, hvalue, hunit]
    · next hlt =>
        have hstep : Unescape.between.step c = some ([c], .between) := by
          rw [Unescape.step, if_neg hbackslash, if_neg (not_or.2 ⟨hquote, hlt⟩)]
        rw [List.singleton_append, Unescape.run, hstep]
        rfl
  all_goals simp [Unescape.run, Unescape.step, shortEscape?, Function.comp_def]

/-- What is quoted is read back as it was. -/
theorem unescape?_flatMap_escape (cs : List Char) : unescape? (cs.flatMap escape) = some cs := by
  induction cs with
  | nil => rfl
  | cons c cs ih =>
      rw [unescape?] at ih ⊢
      rw [List.flatMap_cons, run_escape, ih]
      rfl

example : unescape? "\\u00e9 \\ud83d\\ude00".toList = some ['é', ' ', '😀'] := by decide

/-! ## Objects by name -/

section

variable {name : String} {members ms : List (String × Json)}

theorem insertMember_perm (h : name ∉ members.map Prod.fst) (value : Json) :
    (insertMember name value members).Perm ((name, value) :: members) := by
  induction members with
  | nil => exact List.Perm.refl _
  | cons m members ih =>
      rw [List.map_cons, List.mem_cons, not_or] at h
      rw [insertMember]
      cases hcompare : compare name m.1 with
      | lt => exact List.Perm.refl _
      | eq => exact absurd (Std.LawfulEqOrd.eq_of_compare hcompare) h.1
      | gt => exact ((ih h.2).cons m).trans (List.Perm.swap ..)

theorem foldl_insertMember_perm (h : ((ms ++ members).map Prod.fst).Nodup) :
    (members.foldl (fun acc m => insertMember m.1 m.2 acc) ms).Perm (ms ++ members) := by
  induction members generalizing ms with
  | nil => rw [List.foldl_nil, List.append_nil]
  | cons m members ih =>
      have hmiddle : (ms ++ m :: members).Perm (m :: ms ++ members) := List.perm_middle
      have hnodup := (hmiddle.map Prod.fst).nodup_iff.1 h
      have hfresh : m.1 ∉ ms.map Prod.fst := fun hmem => by
        rw [List.cons_append, List.map_cons, List.nodup_cons, List.map_append] at hnodup
        exact hnodup.1 (List.mem_append_left _ hmem)
      have hinsert := (insertMember_perm hfresh m.2).append_right members
      exact ((ih ((hinsert.map Prod.fst).nodup_iff.2 hnodup)).trans hinsert).trans hmiddle.symm

/-- Different names give way to none. -/
theorem exists_sorted_eq (h : (members.map Prod.fst).Nodup) :
    ∃ ms, sorted members = .object ms ∧ ms.Perm members := by
  have hperm : (members.foldl (fun acc m => insertMember m.1 m.2 acc) []).Perm ([] ++ members) :=
    foldl_insertMember_perm h
  exact ⟨_, rfl, hperm⟩

end

end Ontotype.Json

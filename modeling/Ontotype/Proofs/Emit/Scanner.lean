import Ontotype.Emit.TypeScript
import Ontotype.Proofs.Json

set_option autoImplicit false

/-! # Scanning TypeScript

A scanner goes through a text in three modes. In code it looks out for string tokens and for block
comments; a string token ends with the next quote that no backslash stands before, and a comment
with the next `*/`. What it keeps is the text without its comments, and the inside of each string
token.

Pieces of a text that start and end in code are scanned one after the other, each without regard to
what stands around it (`Scans`). Such pieces are code without quotes and slashes, what is quoted,
and whole comments. -/

namespace Ontotype

open Ontotype.Text

/-! ## The scanner -/

/-- What the scanner is in; in each of the three it knows of the last character if that matters. -/
inductive Mode where
  | code
  /-- In code, after a slash. -/
  | slash
  | string
  /-- In a string token, after a backslash. -/
  | backslash
  | comment
  /-- In a comment, after a star. -/
  | star
  deriving DecidableEq, Repr

/-- Where the scanner is, and what it has kept. -/
structure Scan where
  mode : Mode := .code
  /-- The text without comments; a slash that may start one is not kept yet. -/
  kept : List Char := []
  /-- The inside of the string token at hand. -/
  token : List Char := []
  /-- The insides of the string tokens that have ended. -/
  tokens : List (List Char) := []
  deriving DecidableEq, Repr

namespace Scan

/-- A character of code. -/
def code (s : Scan) (c : Char) : Scan :=
  if c = '/' then { s with mode := .slash }
  else { s with mode := if c = '"' then .string else .code, kept := s.kept ++ [c] }

/-- One character of the text. -/
def step (s : Scan) (c : Char) : Scan :=
  match s.mode with
  | .code => s.code c
  | .slash =>
    if c = '*' then { s with mode := .comment } else { s with kept := s.kept ++ ['/'] }.code c
  | .string =>
    if c = '"' then
      { mode := .code, kept := s.kept ++ [c], token := [], tokens := s.tokens ++ [s.token] }
    else
      { s with
        mode := if c = '\\' then .backslash else .string
        kept := s.kept ++ [c]
        token := s.token ++ [c] }
  | .backslash => { s with mode := .string, kept := s.kept ++ [c], token := s.token ++ [c] }
  | .comment => { s with mode := if c = '*' then .star else .comment }
  | .star => { s with mode := if c = '/' then .code else if c = '*' then .star else .comment }

/-- Goes through a text. -/
def run (s : Scan) (cs : List Char) : Scan := cs.foldl step s

theorem run_cons (s : Scan) (c : Char) (cs : List Char) : s.run (c :: cs) = (s.step c).run cs := rfl

theorem run_append (s : Scan) (cs cs' : List Char) : s.run (cs ++ cs') = (s.run cs).run cs' :=
  List.foldl_append

end Scan

/-- Goes through a whole text. -/
def scan (text : String) : Scan := ({} : Scan).run text.toList

/-! ## Pieces from code to code -/

/-- Scanning this piece starts and ends in code, keeps `kept` of it, and finds `tokens`. -/
def Scans (cs kept : List Char) (tokens : List (List Char)) : Prop :=
  ∀ k ts, Scan.run ⟨.code, k, [], ts⟩ cs = ⟨.code, k ++ kept, [], ts ++ tokens⟩

namespace Scans

variable {cs cs' k k' : List Char} {ts ts' : List (List Char)}

theorem nil : Scans [] [] [] := fun k ts => by simp [Scan.run]

theorem append (h : Scans cs k ts) (h' : Scans cs' k' ts') :
    Scans (cs ++ cs') (k ++ k') (ts ++ ts') := by
  intro k₀ ts₀
  rw [Scan.run_append, h, h', List.append_assoc, List.append_assoc]

/-- Code without quotes and slashes is kept as it is. -/
theorem of_plain (h : ∀ c ∈ cs, c ≠ '"' ∧ c ≠ '/') : Scans cs cs [] := by
  induction cs with
  | nil => exact nil
  | cons c cs ih =>
      rw [List.forall_mem_cons] at h
      intro k ts
      have hstep : Scan.step ⟨.code, k, [], ts⟩ c = ⟨.code, k ++ [c], [], ts⟩ := by
        simp [Scan.step, Scan.code, h.1.1, h.1.2]
      rw [Scan.run_cons, hstep, ih h.2, List.append_assoc, List.singleton_append]

/-! ## String tokens -/

/-- A string token does not end within an escaped character. -/
theorem run_escape (c : Char) (k token : List Char) (ts : List (List Char)) :
    Scan.run ⟨.string, k, token, ts⟩ (Json.escape c) =
      ⟨.string, k ++ Json.escape c, token ++ Json.escape c, ts⟩ := by
  rcases Json.escape_cases c with ⟨heq, hquote, hbackslash, _⟩ | ⟨x, rest, heq, _, hrest⟩
  · simp [heq, Scan.run, Scan.step, hquote, hbackslash]
  · have hplain : ∀ (rest k token : List Char), (∀ y ∈ rest, y ≠ '"' ∧ y ≠ '\\' ∧ y ≠ '\n') →
        Scan.run ⟨.string, k, token, ts⟩ rest = ⟨.string, k ++ rest, token ++ rest, ts⟩ := by
      intro rest
      induction rest with
      | nil => simp [Scan.run]
      | cons y rest ih =>
          intro k token h
          rw [List.forall_mem_cons] at h
          have hstep : Scan.step ⟨.string, k, token, ts⟩ y =
              ⟨.string, k ++ [y], token ++ [y], ts⟩ := by
            simp [Scan.step, h.1.1, h.1.2.1]
          rw [Scan.run_cons, hstep, ih _ _ h.2]
          simp
    have hstart : Scan.run ⟨.string, k, token, ts⟩ ('\\' :: x :: rest) =
        Scan.run ⟨.string, k ++ ['\\', x], token ++ ['\\', x], ts⟩ rest := by
      simp [Scan.run, Scan.step]
    rw [heq, hstart, hplain rest _ _ hrest]
    simp

/-- What is quoted is one string token. -/
theorem quoteChars (cs : List Char) :
    Scans (Json.quoteChars cs) (Json.quoteChars cs) [cs.flatMap Json.escape] := by
  have hinside : ∀ (cs k token : List Char) (ts : List (List Char)),
      Scan.run ⟨.string, k, token, ts⟩ (cs.flatMap Json.escape) =
        ⟨.string, k ++ cs.flatMap Json.escape, token ++ cs.flatMap Json.escape, ts⟩ := by
    intro cs
    induction cs with
    | nil => simp [Scan.run]
    | cons c cs ih =>
        intro k token ts
        rw [List.flatMap_cons, Scan.run_append, run_escape, ih]
        simp
  intro k ts
  have hopen : Scan.step ⟨.code, k, [], ts⟩ '"' = ⟨.string, k ++ ['"'], [], ts⟩ := by
    simp [Scan.step, Scan.code]
  rw [Json.quoteChars, List.cons_append, Scan.run_cons, hopen, Scan.run_append, hinside]
  simp [Scan.run, Scan.step]

/-! ## Comments -/

/-- A text that does not end the comment that it stands in. -/
def Stays (cs : List Char) : Prop :=
  ∀ k ts m, m = .comment ∨ m = .star →
    ∃ m', (m' = .comment ∨ m' = .star) ∧ Scan.run ⟨m, k, [], ts⟩ cs = ⟨m', k, [], ts⟩

theorem Stays.append (h : Stays cs) (h' : Stays cs') : Stays (cs ++ cs') := by
  intro k ts m hm
  obtain ⟨m₁, hm₁, hrun⟩ := h k ts m hm
  rw [Scan.run_append, hrun]
  exact h' k ts m₁ hm₁

/-- A text stays in its comment if it does not start with a slash and `*/` is not in it. -/
theorem stays_of_not_isInfix (hstart : cs.head? ≠ some '/') (hends : ¬ ['*', '/'] <:+: cs) :
    Stays cs := by
  -- after a star, a slash would end the comment
  have hrun : ∀ (cs : List Char) (m : Mode), ¬ ['*', '/'] <:+: cs →
      (m = .comment ∨ m = .star ∧ cs.head? ≠ some '/') → ∀ k ts,
      ∃ m', (m' = .comment ∨ m' = .star) ∧ Scan.run ⟨m, k, [], ts⟩ cs = ⟨m', k, [], ts⟩ := by
    intro cs
    induction cs with
    | nil => exact fun m _ hm k ts => ⟨m, hm.imp_right And.left, rfl⟩
    | cons c cs ih =>
        intro m hends hm k ts
        rw [List.infix_cons_iff, not_or] at hends
        have hstep : Scan.step ⟨m, k, [], ts⟩ c =
            ⟨if c = '*' then .star else .comment, k, [], ts⟩ := by
          rcases hm with rfl | ⟨rfl, hc⟩
          · rfl
          · have hslash : c ≠ '/' := fun h => hc (congrArg some h)
            simp [Scan.step, hslash]
        rw [Scan.run_cons, hstep]
        refine ih _ hends.2 ?_ k ts
        by_cases hstar : c = '*'
        · refine Or.inr ⟨if_pos hstar, fun hhead => hends.1 ?_⟩
          obtain ⟨rest, rfl⟩ := List.head?_eq_some_iff.1 hhead
          rw [hstar]
          exact ⟨rest, rfl⟩
        · exact Or.inl (if_neg hstar)
  intro k ts m hm
  exact hrun cs m hends (hm.imp_right fun hstar => ⟨hstar, hstart⟩) k ts

/-- A comment is left out. -/
theorem comment (h : Stays cs) : Scans ('/' :: '*' :: cs ++ ['*', '/']) [] [] := by
  intro k ts
  obtain ⟨m, hm, hrun⟩ := h k ts .comment (Or.inl rfl)
  have hopen : Scan.run ⟨.code, k, [], ts⟩ ['/', '*'] = ⟨.comment, k, [], ts⟩ := by
    simp [Scan.run, Scan.step, Scan.code]
  have hclose : Scan.run ⟨m, k, [], ts⟩ ['*', '/'] = ⟨.code, k, [], ts⟩ := by
    rcases hm with rfl | rfl <;> simp [Scan.run, Scan.step]
  rw [show '/' :: '*' :: cs ++ ['*', '/'] = ['/', '*'] ++ (cs ++ ['*', '/']) from rfl,
    Scan.run_append, hopen, Scan.run_append, hrun, hclose, List.append_nil, List.append_nil]

end Scans

/-! ## Code -/

/-- The inside of the string token that a text is quoted as. -/
def inside (text : String) : List Char := text.toList.flatMap Json.escape

/-- A piece of code on one line, of which the scanner keeps everything; these texts are quoted in
    it. -/
def IsCode (cs : List Char) (texts : List String) : Prop :=
  Scans cs cs (texts.map inside) ∧ '\n' ∉ cs

namespace IsCode

variable {cs cs' : List Char} {texts texts' : List String}

theorem nil : IsCode [] [] := ⟨Scans.nil, List.not_mem_nil⟩

theorem append (h : IsCode cs texts) (h' : IsCode cs' texts') :
    IsCode (cs ++ cs') (texts ++ texts') :=
  ⟨List.map_append ▸ h.1.append h'.1, by simp [h.2, h'.2]⟩

/-- Code without quotes, slashes and line feeds. -/
theorem of_plain (h : ∀ c ∈ cs, c ≠ '"' ∧ c ≠ '/' ∧ c ≠ '\n') : IsCode cs [] :=
  ⟨Scans.of_plain fun c hc => ⟨(h c hc).1, (h c hc).2.1⟩, fun hc => (h _ hc).2.2 rfl⟩

/-- Code that can be looked through. -/
theorem of_all (h : cs.all (fun c => c ≠ '"' && c ≠ '/' && c ≠ '\n') = true) : IsCode cs [] := by
  refine of_plain fun c hc => ?_
  have hplain := List.all_eq_true.1 h c hc
  simpa [and_assoc] using hplain

theorem quoteChars (text : String) : IsCode (Json.quoteChars text.toList) [text] := by
  refine ⟨Scans.quoteChars text.toList, ?_⟩
  have hescape : ∀ c, '\n' ∉ Json.escape c := by
    intro c
    rcases Json.escape_cases c with ⟨heq, _, _, hprint⟩ | ⟨x, rest, heq, hx, hrest⟩
    · rw [heq, List.mem_singleton]
      rintro rfl
      exact absurd hprint (by decide)
    · rw [heq, List.mem_cons, List.mem_cons]
      rintro (h | h | h)
      · exact absurd h (by decide)
      · exact hx h.symm
      · exact (hrest _ h).2.2 rfl
  simp [Json.quoteChars, hescape]

theorem quote (text : String) : IsCode (Json.quote text).toList [text] := by
  rw [Json.quote, String.toList_ofList]
  exact quoteChars text

end IsCode

/-! ## JSON values -/

namespace Json

theorem isCode_number (n : Int) : IsCode (toString n).toList [] := by
  have hnat : ∀ m : Nat, IsCode m.repr.toList [] := by
    intro m
    refine IsCode.of_plain fun c hc => ?_
    rw [Nat.repr, String.toList_ofList] at hc
    have hdigit := Nat.isDigit_of_mem_toDigits (by decide) (by decide) hc
    refine ⟨?_, ?_, ?_⟩ <;> rintro rfl <;> exact absurd hdigit (by decide)
  cases n with
  | ofNat m => exact hnat m
  | negSucc m =>
      have htext : (toString (Int.negSucc m)).toList = ['-'] ++ m.succ.repr.toList :=
        String.toList_append
      rw [htext]
      exact (IsCode.of_all (by decide)).append (hnat m.succ)

theorem isCode_comma (first : Bool) : IsCode (if first then [] else [',']) [] := by
  cases first
  · exact IsCode.of_all (by decide)
  · exact IsCode.nil

mutual

/-- The text of a value is code. -/
theorem exists_isCode_chars : ∀ j : Json, ∃ texts, IsCode j.chars texts
  | .null => ⟨[], IsCode.of_all (by decide)⟩
  | .bool true => ⟨[], IsCode.of_all (by decide)⟩
  | .bool false => ⟨[], IsCode.of_all (by decide)⟩
  | .number n => ⟨[], isCode_number n⟩
  | .string s => ⟨[s], IsCode.quoteChars s⟩
  | .array items => by
      obtain ⟨texts, h⟩ := exists_isCode_itemChars true items
      have hopen : IsCode ['['] [] := IsCode.of_all (by decide)
      have hclose : IsCode [']'] [] := IsCode.of_all (by decide)
      rw [chars]
      exact ⟨_, (hopen.append h).append hclose⟩
  | .object members => by
      obtain ⟨texts, h⟩ := exists_isCode_memberChars true members
      have hopen : IsCode ['\x7b'] [] := IsCode.of_all (by decide)
      have hclose : IsCode ['\x7d'] [] := IsCode.of_all (by decide)
      rw [chars]
      exact ⟨_, (hopen.append h).append hclose⟩

theorem exists_isCode_itemChars (first : Bool) :
    ∀ items : List Json, ∃ texts, IsCode (itemChars first items) texts
  | [] => ⟨[], IsCode.nil⟩
  | item :: rest => by
      obtain ⟨texts, h⟩ := exists_isCode_chars item
      obtain ⟨texts', h'⟩ := exists_isCode_itemChars false rest
      rw [itemChars]
      exact ⟨_, ((isCode_comma first).append h).append h'⟩

theorem exists_isCode_memberChars (first : Bool) :
    ∀ members : List (String × Json), ∃ texts, IsCode (memberChars first members) texts
  | [] => ⟨[], IsCode.nil⟩
  | (name, value) :: rest => by
      obtain ⟨texts, h⟩ := exists_isCode_chars value
      obtain ⟨texts', h'⟩ := exists_isCode_memberChars false rest
      have hcolon : IsCode [':'] [] := IsCode.of_all (by decide)
      have hname := (isCode_comma first).append (IsCode.quoteChars name)
      rw [memberChars]
      exact ⟨_, (hname.append (hcolon.append h)).append h'⟩

end

end Json

end Ontotype

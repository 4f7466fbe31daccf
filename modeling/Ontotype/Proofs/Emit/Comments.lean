import Ontotype.Proofs.Emit.Scanner
import Ontotype.Text.Characters

set_option autoImplicit false

/-! # Comments in TypeScript

Whatever a comment says, the lines that it is written in start and end in code, and nothing but
indentation is left of them when comments are left out (`Prints.doc`): with every `*/` broken up, no
line ends the comment that it stands in, and a space keeps it from the star before it. -/

namespace Ontotype

open Ontotype.Text Ontotype.TypeScript

/-! ## Lines are parts of a text -/

namespace Text

theorem isInfix_of_mem_pieces {sep : Char} {cs piece : List Char} (h : piece ∈ pieces sep cs) :
    piece <:+: cs ∧ sep ∉ piece := by
  -- the first piece stands at the start of the text
  have hall : ∀ cs, ∃ first rest, pieces sep cs = first :: rest ∧ first <+: cs ∧
      ∀ p ∈ first :: rest, p <:+: cs ∧ sep ∉ p := by
    intro cs
    induction cs with
    | nil => exact ⟨[], [], rfl, List.prefix_rfl, by simp⟩
    | cons c cs ih =>
        obtain ⟨first, rest, heq, hfirst, hrest⟩ := ih
        rw [pieces_cons, heq]
        split
        · refine ⟨[], first :: rest, rfl, List.nil_prefix, fun p hp => ?_⟩
          rcases List.mem_cons.1 hp with rfl | hp
          · exact ⟨List.nil_infix, List.not_mem_nil⟩
          · exact ⟨List.infix_cons (hrest p hp).1, (hrest p hp).2⟩
        · next hc =>
            have hstart : c :: first <+: c :: cs := List.cons_prefix_cons.2 ⟨rfl, hfirst⟩
            refine ⟨c :: first, rest, rfl, hstart, fun p hp => ?_⟩
            rcases List.mem_cons.1 hp with rfl | hp
            · refine ⟨hstart.isInfix, fun hmem => ?_⟩
              rcases List.mem_cons.1 hmem with rfl | hmem
              · exact hc rfl
              · exact (hrest first List.mem_cons_self).2 hmem
            · have hmem := List.mem_cons_of_mem first hp
              exact ⟨List.infix_cons (hrest p hmem).1, (hrest p hmem).2⟩
  obtain ⟨first, rest, heq, _, hrest⟩ := hall cs
  exact hrest piece (heq ▸ h)

theorem dropReturn_isPrefix (line : List Char) : dropReturn line <+: line := by
  rw [dropReturn]
  split
  · exact List.dropLast_prefix line
  · exact List.prefix_rfl

theorem isInfix_of_mem_lines {cs line : List Char} (h : line ∈ lines cs) :
    line <:+: cs ∧ '\n' ∉ line := by
  have hpiece : ∃ piece ∈ pieces '\n' cs, line <+: piece := by
    rw [lines, closeLines] at h
    rcases List.mem_append.1 h with h | h
    · obtain ⟨piece, hmem, rfl⟩ := List.mem_map.1 h
      exact ⟨piece, (List.dropLast_sublist _).subset hmem, dropReturn_isPrefix piece⟩
    · have hlast := Option.mem_toList.1 (List.mem_of_mem_filter h)
      exact ⟨line, List.mem_of_getLast? hlast, List.prefix_rfl⟩
  obtain ⟨piece, hmem, hline⟩ := hpiece
  obtain ⟨hpart, hsep⟩ := isInfix_of_mem_pieces hmem
  exact ⟨hline.isInfix.trans hpart, fun h => hsep (hline.subset h)⟩

end Text

/-! ## Ends of comments -/

namespace TypeScript

theorem head?_breakEnds (cs : List Char) : (breakEnds cs).head? = cs.head? := by
  fun_cases breakEnds cs <;> rfl

/-- No comment ends where its ends are broken up. -/
theorem not_isInfix_breakEnds (cs : List Char) : ¬ ['*', '/'] <:+: breakEnds cs := by
  fun_induction breakEnds cs with
  | case1 => simp
  | case2 rest ih => simp [List.infix_cons_iff, ih]
  | case3 c rest hends ih =>
      rw [List.infix_cons_iff, not_or]
      refine ⟨fun hstart => ?_, ih⟩
      obtain ⟨hc, hrest⟩ := List.cons_prefix_cons.1 hstart
      obtain ⟨tail, htail⟩ := hrest
      have hhead : rest.head? = some '/' := by rw [← head?_breakEnds, ← htail]; rfl
      obtain ⟨tail', rfl⟩ := List.head?_eq_some_iff.1 hhead
      exact hends tail' hc.symm rfl

end TypeScript

/-! ## Printed lines -/

/-- Whether a line has nothing but blanks. -/
def isBlankLine (line : List Char) : Bool := line.all isBlank

/-- Lines as characters, each with its line feed. -/
def lineChars (lines : List (List Char)) : List Char := lines.flatMap (· ++ ['\n'])

/-- The lines of code of a text: those that are left when comments and blank lines are left out. -/
def codeLines (text : String) : List (List Char) :=
  (pieces '\n' (scan text).kept).filter (!isBlankLine ·)

theorem toList_unlines (ls : List String) :
    (unlines ls).toList = lineChars (ls.map String.toList) := by
  induction ls with
  | nil => rfl
  | cons l ls ih => simp [unlines, ih, lineChars]

/-- The lines are scanned from code to code. Without comments and blank lines, they are the lines
    `code`, and these texts are quoted in them, in order. -/
def Prints (ls code : List String) (texts : List String) : Prop :=
  ∃ kept : List (List Char), Scans (unlines ls).toList (lineChars kept) (texts.map inside) ∧
    (∀ line ∈ kept, '\n' ∉ line) ∧
      kept.filter (!isBlankLine ·) = (code.map String.toList).filter (!isBlankLine ·)

namespace Prints

variable {ls ls' code code' texts texts' : List String}

theorem nil : Prints [] [] [] := ⟨[], Scans.nil, by simp, rfl⟩

theorem append (h : Prints ls code texts) (h' : Prints ls' code' texts') :
    Prints (ls ++ ls') (code ++ code') (texts ++ texts') := by
  obtain ⟨kept, hscans, hlines, hkept⟩ := h
  obtain ⟨kept', hscans', hlines', hkept'⟩ := h'
  refine ⟨kept ++ kept', ?_, ?_, ?_⟩
  · rw [unlines_append, String.toList_append, lineChars, List.flatMap_append, List.map_append]
    exact hscans.append hscans'
  · exact fun line hline => (List.mem_append.1 hline).elim (hlines line) (hlines' line)
  · rw [List.filter_append, hkept, hkept', List.map_append, List.filter_append]

theorem scans_newline : Scans ['\n'] ['\n'] [] :=
  Scans.of_plain fun c hc => by rw [List.mem_singleton.1 hc]; decide

/-- A line of code is printed as it is. -/
theorem line {l : String} (h : IsCode l.toList texts) : Prints [l] [l] texts := by
  refine ⟨[l.toList], ?_, by simpa using h.2, rfl⟩
  rw [toList_unlines]
  simpa [lineChars] using h.1.append scans_newline

theorem flatMap {α : Type} (xs : List α) {ls code texts : α → List String}
    (h : ∀ x ∈ xs, Prints (ls x) (code x) (texts x)) :
    Prints (xs.flatMap ls) (xs.flatMap code) (xs.flatMap texts) := by
  induction xs with
  | nil => exact nil
  | cons x xs ih =>
      rw [List.forall_mem_cons] at h
      exact h.1.append (ih h.2)

theorem stays_of_not_mem {cs : List Char} (h : '/' ∉ cs) : Scans.Stays cs := by
  refine Scans.stays_of_not_isInfix (fun hhead => ?_) fun hpart => ?_
  · obtain ⟨rest, rfl⟩ := List.head?_eq_some_iff.1 hhead
    exact h List.mem_cons_self
  · exact h (hpart.subset (by simp))

theorem eq_of_mem_indent : ∀ c ∈ "    ".toList, c = ' ' := fun c hc =>
  List.eq_of_mem_replicate (show c ∈ List.replicate 4 ' ' from hc)

/-- Lines that are a comment behind some indentation. -/
theorem of_comment {indent : String} (hindent : ∀ c ∈ indent.toList, c = ' ') {cs : List Char}
    (hstays : Scans.Stays cs) (hls : (unlines ls).toList =
      indent.toList ++ ('/' :: '*' :: cs ++ ['*', '/']) ++ ['\n']) : Prints ls [] [] := by
  have hplain : Scans indent.toList indent.toList [] :=
    Scans.of_plain fun c hc => by rw [hindent c hc]; decide
  have hblank : isBlankLine indent.toList = true :=
    List.all_eq_true.2 fun c hc => by rw [hindent c hc]; decide
  refine ⟨[indent.toList], ?_, ?_, ?_⟩
  · rw [hls]
    simpa [lineChars] using (hplain.append (Scans.comment hstays)).append scans_newline
  · intro line hline hnewline
    rw [List.mem_singleton.1 hline] at hnewline
    exact absurd (hindent _ hnewline) (by decide)
  · simp [hblank]

theorem stays_indent {indent : String} (hindent : ∀ c ∈ indent.toList, c = ' ') :
    Scans.Stays indent.toList :=
  stays_of_not_mem fun h => absurd (hindent _ h) (by decide)

/-- The lines between the first and the last line of a comment. -/
theorem stays_docLines {indent : String} (hindent : ∀ c ∈ indent.toList, c = ' ')
    (hlines : ∀ l ∈ ls, Scans.Stays (' ' :: l.toList)) :
    Scans.Stays (lineChars ((ls.map (docLine indent)).map String.toList)) := by
  have hnewline : Scans.Stays ['\n'] := stays_of_not_mem (by decide)
  have hstar : Scans.Stays [' ', '*'] := stays_of_not_mem (by decide)
  induction ls with
  | nil => exact stays_of_not_mem List.not_mem_nil
  | cons l ls ih =>
      rw [List.forall_mem_cons] at hlines
      have hline : Scans.Stays (docLine indent l).toList := by
        rw [docLine]
        split
        · simpa using (stays_indent hindent).append hstar
        · simpa using (stays_indent hindent).append (hstar.append hlines.1)
      simpa [lineChars] using (hline.append hnewline).append (ih hlines.2)

/-- Of a comment, nothing is printed but blanks. -/
theorem doc (indent : String) (hindent : ∀ c ∈ indent.toList, c = ' ') (comment : Option String) :
    Prints (doc indent comment) [] [] := by
  have hspaces := stays_indent hindent
  cases comment with
  | none => exact nil
  | some text =>
      have hlines : ∀ l ∈ linesOf (String.ofList (breakEnds text.toList)),
          Scans.Stays (' ' :: l.toList) := by
        intro l hl
        obtain ⟨cs, hcs, rfl⟩ := List.mem_map.1 hl
        rw [String.toList_ofList] at hcs
        refine Scans.stays_of_not_isInfix (by simp) fun hpart => ?_
        have hcs' := (List.infix_cons_iff.1 hpart).resolve_left (by simp [List.cons_prefix_cons])
        rw [String.toList_ofList] at hcs'
        exact not_isInfix_breakEnds _ (hcs'.trans (isInfix_of_mem_lines hcs).1)
      rw [TypeScript.doc]
      generalize linesOf (String.ofList (breakEnds text.toList)) = ls at hlines ⊢
      split
      · next line =>
          have hline := hlines line List.mem_cons_self
          have hstar : Scans.Stays ['*'] := stays_of_not_mem (by decide)
          have hspace : Scans.Stays [' '] := stays_of_not_mem (by decide)
          refine of_comment hindent ((hstar.append hline).append hspace) ?_
          simp [unlines]
      · have hstart : Scans.Stays ['*', '\n'] := stays_of_not_mem (by decide)
        have hspace : Scans.Stays [' '] := stays_of_not_mem (by decide)
        have hbody := stays_docLines hindent hlines
        refine of_comment hindent (hstart.append (hbody.append (hspaces.append hspace))) ?_
        simp [toList_unlines, lineChars]

theorem pieces_lineChars (lines : List (List Char)) (h : ∀ line ∈ lines, '\n' ∉ line) :
    pieces '\n' (lineChars lines) = lines ++ [[]] := by
  induction lines with
  | nil => rfl
  | cons line lines ih =>
      rw [List.forall_mem_cons] at h
      have hcons : lineChars (line :: lines) = line ++ '\n' :: lineChars lines := by
        simp [lineChars]
      rw [hcons, pieces_append_sep _ _ h.1, ih h.2, List.cons_append]

/-- What a scan of printed lines finds. -/
theorem scan_eq (h : Prints ls code texts) : (scan (unlines ls)).mode = .code ∧
    (scan (unlines ls)).tokens = texts.map inside ∧
      codeLines (unlines ls) = (code.map String.toList).filter (!isBlankLine ·) := by
  obtain ⟨kept, hscans, hlines, hkept⟩ := h
  have hscan : scan (unlines ls) = ⟨.code, lineChars kept, [], texts.map inside⟩ := hscans [] []
  refine ⟨by rw [hscan], by rw [hscan], ?_⟩
  rw [codeLines, hscan, pieces_lineChars kept hlines, List.filter_append, hkept]
  exact List.append_nil _

example : codeLines "a /* \" */ \"b /*\\\"\"\n/* */\n" = ["a  \"b /*\\\"\"".toList] := by decide +kernel

end Prints

end Ontotype

import Ontotype.NTriples.Document
import Mathlib.Data.List.Basic

set_option autoImplicit false

/-! # Documents are read line by line

A text of whole lines and what follows it have the lines of both (`Ended.lines_append`), and lines
are read one after the other, so a document can be read in parts: a part whose lines are ended is
read as if it stood alone, and what follows it too, but for the numbers of its lines
(`readDocumentBy_append`). So a document is refused for the first of its lines that is refused when
it stands alone, with the number of that line (`Refused`). Of what parses a line, nothing is used
but that it is a function of the line. -/

namespace Ontotype

/-! ## Whole lines -/

namespace Text

/-- A text has no line feed, or it has a first line and what follows that. -/
theorem line_induction {P : List Char → Prop} (last : ∀ cs, '\n' ∉ cs → P cs)
    (more : ∀ body rest, '\n' ∉ body → P rest → P (body ++ '\n' :: rest)) (cs : List Char) :
    P cs := by
  by_cases hfeed : '\n' ∈ cs
  · obtain ⟨body, rest, heq, hbody⟩ := List.eq_append_cons_of_mem hfeed
    have hshorter : rest.length < cs.length := by
      rw [heq, List.length_append, List.length_cons]
      omega
    rw [heq]
    exact more body rest hbody (line_induction last more rest)
  · exact last cs hfeed
termination_by cs.length

/-- A text of whole lines: a line feed ends each of them. -/
inductive Ended : List Char → Prop where
  | nil : Ended []
  | line {body rest : List Char} (hbody : '\n' ∉ body) (hrest : Ended rest) :
      Ended (body ++ '\n' :: rest)

namespace Ended

variable {cs : List Char}

/-- Lines are whole if there are none, or a line feed ends the last of them. -/
theorem of_getLast? (h : cs = [] ∨ cs.getLast? = some '\n') : Ended cs := by
  induction cs using line_induction with
  | last cs hfeed =>
      rcases h with rfl | h
      · exact .nil
      · exact absurd (List.mem_of_getLast? h) hfeed
  | more body rest hbody ih =>
      refine .line hbody (ih ?_)
      cases rest with
      | nil => exact Or.inl rfl
      | cons c rest =>
          have hlast := h.resolve_left (List.append_ne_nil_of_right_ne_nil _ (List.cons_ne_nil _ _))
          rw [List.getLast?_append_cons, List.getLast?_cons_cons] at hlast
          exact Or.inr hlast

/-- The lines of whole lines and of what follows them are the lines of both. -/
theorem lines_append (h : Ended cs) (after : List Char) :
    lines (cs ++ after) = lines cs ++ lines after := by
  induction h with
  | nil => rfl
  | line hbody _ ih =>
      rw [List.append_assoc, List.cons_append, lines_append_newline _ _ hbody, ih,
        lines_append_newline _ _ hbody, List.cons_append]

/-- There are as many whole lines as line feeds. -/
theorem length_lines (h : Ended cs) : (lines cs).length = cs.count '\n' := by
  induction h with
  | nil => rfl
  | line hbody _ ih =>
      rw [lines_append_newline _ _ hbody, List.length_cons, ih, List.count_append,
        List.count_eq_zero.2 hbody, List.count_cons_self, Nat.zero_add]

end Ended

/-- A text that has no line feed but at its end is one line at most. -/
theorem length_lines_le_one {cs : List Char} (h : '\n' ∉ cs.dropLast) : (lines cs).length ≤ 1 := by
  by_cases hfeed : '\n' ∈ cs
  · obtain ⟨body, rest, rfl, hbody⟩ := List.eq_append_cons_of_mem hfeed
    cases rest with
    | nil =>
        rw [lines_append_newline _ _ hbody]
        exact Nat.le_refl 1
    | cons c rest =>
        refine absurd ?_ h
        rw [List.dropLast_append_cons, List.dropLast_cons_cons]
        exact List.mem_append_right body List.mem_cons_self
  · rw [lines, pieces_of_not_mem cs hfeed]
    exact List.length_filter_le (fun line => decide (line ≠ [])) [cs]

end Text

namespace NTriples

open Ontotype.Text

/-! ## Reading lines -/

section

variable {parse : TripleParser} {line : Nat} {cs : List Char} {ls : List (List Char)}
  {e : LineError}

/-- The refusal of a line that has `n` more lines before it. -/
def LineError.later (n : Nat) (e : LineError) : LineError := { e with line := e.line + n }

theorem readNumbered_later (line n : Nat) (cs : List Char) :
    readNumbered parse (cs, line + n) = (readNumbered parse (cs, line)).mapError (.later n) := by
  rw [readNumbered, readNumbered]
  cases readLine parse cs <;> rfl

theorem line_of_readNumbered (h : readNumbered parse (cs, line) = .error e) : e.line = line := by
  rw [readNumbered] at h
  cases hline : readLine parse cs with
  | error fault =>
      rw [hline] at h
      exact (congrArg LineError.line (Except.error.inj h)).symm
  | ok ss => exact absurd (hline ▸ h) (by nofun)

theorem readLines_nil (line : Nat) : readLines parse line [] = .ok [] := rfl

/-- A line is read before those that follow it. -/
theorem readLines_cons (line : Nat) (cs : List Char) (ls : List (List Char)) :
    readLines parse line (cs :: ls) = readNumbered parse (cs, line) >>= fun ss =>
      (readLines parse (line + 1) ls).map (ss ++ ·) := by
  rw [readLines, List.zipIdx_cons, List.mapM_cons, readLines]
  cases readNumbered parse (cs, line) with
  | error e => rfl
  | ok ss => cases (ls.zipIdx (line + 1)).mapM (readNumbered parse) <;> rfl

theorem readLines_singleton (line : Nat) (cs : List Char) :
    readLines parse line [cs] = readNumbered parse (cs, line) := by
  rw [readLines_cons, readLines_nil]
  cases readNumbered parse (cs, line) with
  | error e => rfl
  | ok ss => exact congrArg Except.ok (List.append_nil ss)

theorem readLines_append (line : Nat) (ls ls' : List (List Char)) :
    readLines parse line (ls ++ ls') =
      readLines parse line ls >>= fun ss =>
        (readLines parse (line + ls.length) ls').map (ss ++ ·) := by
  induction ls generalizing line with
  | nil =>
      rw [List.nil_append, readLines_nil, List.length_nil, Nat.add_zero]
      cases readLines parse line ls' <;> rfl
  | cons cs ls ih =>
      have hline : line + 1 + ls.length = line + (ls.length + 1) := by omega
      rw [List.cons_append, readLines_cons, readLines_cons, ih, List.length_cons, hline]
      cases readNumbered parse (cs, line) with
      | error e => rfl
      | ok ss =>
          cases readLines parse (line + 1) ls with
          | error e => rfl
          | ok ss' =>
              cases readLines parse (line + (ls.length + 1)) ls' with
              | error e => rfl
              | ok ss'' => exact congrArg Except.ok (List.append_assoc ss ss' ss'').symm

theorem readLines_later (line n : Nat) (ls : List (List Char)) :
    readLines parse (line + n) ls = (readLines parse line ls).mapError (.later n) := by
  induction ls generalizing line with
  | nil => rfl
  | cons cs ls ih =>
      rw [readLines_cons, readLines_cons, Nat.add_right_comm line n 1, ih, readNumbered_later]
      cases readNumbered parse (cs, line) with
      | error e => rfl
      | ok ss => cases readLines parse (line + 1) ls <;> rfl

/-- If there is one line at most, no other line is refused. -/
theorem line_of_readLines (hlength : ls.length ≤ 1) (h : readLines parse line ls = .error e) :
    e.line = line := by
  cases ls with
  | nil => exact absurd h (by simp [readLines_nil])
  | cons cs ls =>
      obtain rfl : ls = [] := by simpa using hlength
      rw [readLines_singleton] at h
      exact line_of_readNumbered h

end

/-! ## Reading documents -/

section

variable {parse : TripleParser} {text before line after first : String} {e : LineError}

/-- Whole lines are read as if they stood alone, and so is what follows them, but for the numbers
    of its lines. -/
theorem readDocumentBy_append (h : Ended before.toList) (after : String) :
    readDocumentBy parse (before ++ after) = readDocumentBy parse before >>= fun ss =>
      ((readDocumentBy parse after).mapError
        (.later (before.toList.count '\n'))).map (ss ++ ·) := by
  rw [readDocumentBy, String.toList_append, h.lines_append, readLines_append, h.length_lines,
    readLines_later]
  rfl

/-- A last line that is not ended is read as it stands, if there is anything on it. -/
theorem readDocumentBy_of_not_mem (h : '\n' ∉ line.toList) : readDocumentBy parse line =
    if line = "" then .ok [] else (readLine parse line.toList).mapError (LineError.mk 1) := by
  rw [readDocumentBy, lines, pieces_of_not_mem _ h]
  by_cases hempty : line = ""
  · rw [if_pos hempty, hempty]
    rfl
  · obtain ⟨c, cs, hline⟩ := List.exists_cons_of_ne_nil (mt String.toList_eq_nil_iff.1 hempty)
    rw [if_neg hempty, hline]
    exact readLines_singleton 1 (c :: cs)

/-- A line that is ended is read without its end. -/
theorem readDocumentBy_line (h : '\n' ∉ line.toList) : readDocumentBy parse (line ++ "\n") =
    (readLine parse (dropReturn line.toList)).mapError (LineError.mk 1) := by
  rw [readDocumentBy, String.toList_append]
  show readLines parse 1 (lines (line.toList ++ ['\n'])) = _
  rw [lines_append_newline _ _ h]
  exact readLines_singleton 1 (dropReturn line.toList)

theorem ended_of_getLast? (h : text = "" ∨ text.toList.getLast? = some '\n') :
    Ended text.toList :=
  .of_getLast? (h.imp_left fun h => by rw [h, String.toList_empty])

/-! ## Refusals -/

/-- `line` is a line of the text `before ++ line ++ after`: whole lines stand before it, and it has
    no line feed but the one that ends it, which the last line of a text may lack. -/
structure LineBetween (before line after : String) : Prop where
  before_ended : before = "" ∨ before.toList.getLast? = some '\n'
  single : '\n' ∉ line.toList.dropLast
  ended : line.toList.getLast? = some '\n' ∨ after = ""

/-- What a refusal says: whole lines that are read stand before a line that is refused on its own,
    and their line feeds are counted. -/
def Refused (parse : TripleParser) (text : String) (e : LineError) : Prop :=
  ∃ before line after, text = before ++ line ++ after ∧ LineBetween before line after ∧
    (∃ ss, readDocumentBy parse before = .ok ss) ∧ readDocumentBy parse line = .error ⟨1, e.fault⟩ ∧
      e.line = before.toList.count '\n' + 1

theorem LineBetween.append (h : LineBetween before line after)
    (hfirst : first.toList.getLast? = some '\n') : LineBetween (first ++ before) line after := by
  refine ⟨Or.inr ?_, h.single, h.ended⟩
  rcases h.before_ended with rfl | hbefore
  · rw [String.append_empty, hfirst]
  · rw [String.toList_append, List.getLast?_append, hbefore, Option.some_or]

/-- A first line that is refused has the number 1. -/
theorem LineBetween.refused (h : LineBetween "" line after)
    (hread : readDocumentBy parse line = .error e) : Refused parse (line ++ after) e := by
  have hnumber : e.line = 1 := line_of_readLines (length_lines_le_one h.single) hread
  refine ⟨"", line, after, by rw [String.empty_append], h, ⟨[], rfl⟩, ?_, hnumber⟩
  rw [hread, ← hnumber]

/-- A refusal with one more line before it, which is read. -/
theorem Refused.append {ss : List Statement} (h : Refused parse text e)
    (hfirst : first.toList.getLast? = some '\n') (hread : readDocumentBy parse first = .ok ss) :
    Refused parse (first ++ text) (e.later (first.toList.count '\n')) := by
  obtain ⟨before, line, after, rfl, hplace, ⟨ss', hbefore⟩, hline, hnumber⟩ := h
  refine ⟨first ++ before, line, after, ?_, hplace.append hfirst, ⟨ss ++ ss', ?_⟩, hline, ?_⟩
  · rw [String.append_assoc, String.append_assoc, String.append_assoc]
  · rw [readDocumentBy_append (ended_of_getLast? (Or.inr hfirst)), hread, hbefore]
    rfl
  · rw [String.toList_append, List.count_append]
    show e.line + _ = _
    omega

/-- The first line of a text is refused, or it is read and a line of what follows it is refused. -/
theorem refused_of_readDocumentBy (h : readDocumentBy parse text = .error e) :
    Refused parse text e := by
  generalize htext : text.toList = cs
  induction cs using line_induction generalizing text e with
  | last cs hfeed =>
      have hsingle : '\n' ∉ text.toList.dropLast := fun hmem =>
        hfeed (htext ▸ List.dropLast_subset _ hmem)
      have hrefused := LineBetween.refused ⟨Or.inl rfl, hsingle, Or.inr rfl⟩ h
      rwa [String.append_empty] at hrefused
  | more body rest hbody ih =>
      obtain ⟨first, hfirst⟩ : ∃ first : String, first.toList = body ++ ['\n'] :=
        ⟨String.ofList _, String.toList_ofList⟩
      obtain ⟨others, hothers⟩ : ∃ others : String, others.toList = rest :=
        ⟨String.ofList _, String.toList_ofList⟩
      obtain rfl : text = first ++ others := by
        rw [← String.toList_inj, String.toList_append, hfirst, hothers, htext, List.append_assoc,
          List.singleton_append]
      have hended : first.toList.getLast? = some '\n' := by rw [hfirst, List.getLast?_concat]
      rw [readDocumentBy_append (ended_of_getLast? (Or.inr hended))] at h
      cases hread : readDocumentBy parse first with
      | error e' =>
          rw [hread] at h
          obtain rfl : e' = e := Except.error.inj h
          have hsingle : '\n' ∉ first.toList.dropLast := by rwa [hfirst, List.dropLast_concat]
          exact LineBetween.refused ⟨Or.inl rfl, hsingle, Or.inl hended⟩ hread
      | ok ss =>
          cases hrest : readDocumentBy parse others with
          | error e' =>
              rw [hread, hrest] at h
              obtain rfl : e'.later (first.toList.count '\n') = e := Except.error.inj h
              exact (ih hrest hothers).append hended hread
          | ok ss' => exact absurd (hread ▸ hrest ▸ h) (by nofun)

theorem readDocumentBy_of_refused (h : Refused parse text e) :
    readDocumentBy parse text = .error e := by
  obtain ⟨before, line, after, rfl, hplace, ⟨ss, hbefore⟩, hline, hnumber⟩ := h
  have hfollowing : readDocumentBy parse (line ++ after) = .error ⟨1, e.fault⟩ := by
    rcases hplace.ended with hended | rfl
    · rw [readDocumentBy_append (ended_of_getLast? (Or.inr hended)), hline]
      rfl
    · rw [String.append_empty, hline]
  rw [String.append_assoc, readDocumentBy_append (ended_of_getLast? hplace.before_ended), hbefore,
    hfollowing]
  show Except.error (LineError.mk (1 + _) e.fault) = _
  rw [Nat.add_comm, ← hnumber]

/-- **A document is read line by line**, whatever it is that parses the lines. What a line says is
    up to its characters alone, those that end it apart. A document that follows whole lines changes
    nothing about them: if they are refused, so is all of it, and for the same reason; if it is
    refused, its refusal counts their line feeds; and otherwise their statements come before its
    own. So a document is refused just if one of its lines is refused on its own, and the refusal
    has the number of the first of them. -/
theorem document_by_lines (parse : TripleParser) :
    (∀ line : String, '\n' ∉ line.toList →
      readDocumentBy parse line =
          (if line = "" then .ok [] else (readLine parse line.toList).mapError (LineError.mk 1)) ∧
        readDocumentBy parse (line ++ "\n") =
          (readLine parse (dropReturn line.toList)).mapError (LineError.mk 1)) ∧
      (∀ before after : String, before = "" ∨ before.toList.getLast? = some '\n' →
        readDocumentBy parse (before ++ after) =
          match readDocumentBy parse before, readDocumentBy parse after with
          | .error e, _ => .error e
          | .ok _, .error e => .error { e with line := e.line + before.toList.count '\n' }
          | .ok ss, .ok ss' => .ok (ss ++ ss')) ∧
      ∀ text e, readDocumentBy parse text = .error e ↔ Refused parse text e := by
  refine ⟨fun line hline => ⟨readDocumentBy_of_not_mem hline, readDocumentBy_line hline⟩,
    fun before after hbefore => ?_,
    fun text e => ⟨refused_of_readDocumentBy, readDocumentBy_of_refused⟩⟩
  rw [readDocumentBy_append (ended_of_getLast? hbefore)]
  cases readDocumentBy parse before with
  | error e => rfl
  | ok ss => cases readDocumentBy parse after <;> rfl

/-- Two statements with a carriage return between them, and one at their end. -/
def pairedLine : String :=
  "<https://a.example/s> <https://a.example/p> \"o\" .\r" ++
    "<rdf:type> <https://a.example/p> <rdf:type> .\r"

/-- The two statements. -/
def pairedStatements : List Statement :=
  [⟨⟨"https://a.example/s"⟩, ⟨"https://a.example/p"⟩, .literal "o" none⟩,
    ⟨Vocabulary.rdfType, ⟨"https://a.example/p"⟩, .compact "rdf" "type"⟩]

/-- A comment ahead of the two statements: whole lines. -/
def pairedText : String := "# pair\n" ++ (pairedLine ++ "\n")

/-- An empty line, and a last line whose subject is a blank node. -/
def blankText : String := "\n_:b <https://a.example/p> \"o\" ."

theorem document_by_lines_pairedText :
    '\n' ∉ pairedLine.toList ∧ readDocument (pairedLine ++ "\n") = .ok pairedStatements ∧
      pairedText.toList.getLast? = some '\n' ∧
      readDocument (pairedText ++ pairedText) = .ok (pairedStatements ++ pairedStatements) ∧
      readDocument (pairedText ++ blankText) = .error ⟨4, .blankSubject "b"⟩ ∧
      Refused triples (pairedText ++ blankText) ⟨4, .blankSubject "b"⟩ := by
  obtain ⟨hsingle, happend, hrefused⟩ := document_by_lines triples
  have hfeed : '\n' ∉ pairedLine.toList := by decide +kernel
  have hread : readLine triples (dropReturn pairedLine.toList) = .ok pairedStatements := by
    decide +kernel
  have hline := (hsingle pairedLine hfeed).2
  rw [hread] at hline
  have hended : pairedText.toList.getLast? = some '\n' := by decide +kernel
  have hpaired : readDocument pairedText = .ok pairedStatements := by decide +kernel
  have hblank : readDocument blankText = .error ⟨2, .blankSubject "b"⟩ := by decide +kernel
  have hcount : pairedText.toList.count '\n' = 2 := by decide +kernel
  have htwice := happend pairedText pairedText (Or.inr hended)
  have hfourth := happend pairedText blankText (Or.inr hended)
  rw [← readDocument, ← readDocument, hpaired] at htwice
  rw [← readDocument, ← readDocument, ← readDocument, hpaired, hblank, hcount] at hfourth
  exact ⟨hfeed, hline, hended, htwice, hfourth, (hrefused _ _).1 hfourth⟩

end

end NTriples

end Ontotype

set_option autoImplicit false

/-! # Cutting texts

The first and the last occurrence of a separator, all of them, and the start of a text. Each
function comes with what it does to a text that is given by its pieces.

A line ends with a line feed, and a carriage return directly before the line feed belongs to the
end of the line. What follows the last line feed is a line only if it is not empty; a carriage
return at its end stays in it. -/

namespace Ontotype.Text

/-! ## Separators -/

/-- What stands before the first `sep`, and what follows it if there is one. -/
def cut (sep : Char) : List Char → List Char × Option (List Char)
  | [] => ([], none)
  | c :: rest =>
    if c = sep then ([], some rest)
    else
      let (before, after) := cut sep rest
      (c :: before, after)

/-- What stands before and after the last `sep`, if there is one. -/
def cutLast? (sep : Char) : List Char → Option (List Char × List Char)
  | [] => none
  | c :: rest =>
    match cutLast? sep rest with
    | some (before, after) => some (c :: before, after)
    | none => if c = sep then some ([], rest) else none

/-- Puts a character in front of the first piece. -/
def consPiece (c : Char) : List (List Char) → List (List Char)
  | [] => [[c]]
  | piece :: rest => (c :: piece) :: rest

/-- The pieces of a text between separators; a text without one is one piece. -/
def pieces (sep : Char) (cs : List Char) : List (List Char) :=
  cs.foldr (fun c acc => if c = sep then [] :: acc else consPiece c acc) [[]]

/-- What follows `start` in a text that begins with it. -/
def stripStart? : List Char → List Char → Option (List Char)
  | [], cs => some cs
  | _ :: _, [] => none
  | s :: start, c :: cs => if s = c then stripStart? start cs else none

theorem cut_append_sep {sep : Char} (before rest : List Char) (h : sep ∉ before) :
    cut sep (before ++ sep :: rest) = (before, some rest) := by
  induction before with
  | nil => simp [cut]
  | cons c before ih =>
      simp only [List.mem_cons, not_or] at h
      simp [cut, ih h.2, Ne.symm h.1]

theorem cut_of_not_mem {sep : Char} (cs : List Char) (h : sep ∉ cs) : cut sep cs = (cs, none) := by
  induction cs with
  | nil => rfl
  | cons c cs ih =>
      simp only [List.mem_cons, not_or] at h
      simp [cut, ih h.2, Ne.symm h.1]

theorem cutLast?_of_not_mem {sep : Char} (cs : List Char) (h : sep ∉ cs) :
    cutLast? sep cs = none := by
  induction cs with
  | nil => rfl
  | cons c cs ih =>
      simp only [List.mem_cons, not_or] at h
      simp [cutLast?, ih h.2, Ne.symm h.1]

theorem cutLast?_append_sep {sep : Char} (before after : List Char) (h : sep ∉ after) :
    cutLast? sep (before ++ sep :: after) = some (before, after) := by
  induction before with
  | nil => simp [cutLast?, cutLast?_of_not_mem after h]
  | cons c before ih => simp [cutLast?, ih]

theorem pieces_cons (sep c : Char) (cs : List Char) :
    pieces sep (c :: cs) =
      if c = sep then [] :: pieces sep cs else consPiece c (pieces sep cs) :=
  rfl

theorem pieces_ne_nil (sep : Char) (cs : List Char) : pieces sep cs ≠ [] := by
  cases cs with
  | nil => simp [pieces]
  | cons c cs =>
      rw [pieces_cons]
      split
      · simp
      · cases pieces sep cs <;> simp [consPiece]

theorem pieces_append_sep {sep : Char} (before rest : List Char) (h : sep ∉ before) :
    pieces sep (before ++ sep :: rest) = before :: pieces sep rest := by
  induction before with
  | nil => simp [pieces_cons]
  | cons c before ih =>
      simp only [List.mem_cons, not_or] at h
      rw [List.cons_append, pieces_cons, ih h.2, if_neg (Ne.symm h.1)]
      rfl

theorem pieces_of_not_mem {sep : Char} (cs : List Char) (h : sep ∉ cs) : pieces sep cs = [cs] := by
  induction cs with
  | nil => rfl
  | cons c cs ih =>
      simp only [List.mem_cons, not_or] at h
      rw [pieces_cons, ih h.2, if_neg (Ne.symm h.1)]
      rfl

theorem stripStart?_eq_some_iff {start cs rest : List Char} :
    stripStart? start cs = some rest ↔ cs = start ++ rest := by
  induction start generalizing cs with
  | nil => simp [stripStart?]
  | cons s start ih =>
      cases cs with
      | nil => simp [stripStart?]
      | cons c cs =>
          by_cases h : s = c
          · simp [stripStart?, h, ih]
          · simp [stripStart?, h, Ne.symm h]

/-! ## Lines -/

/-- A line without the carriage return that belongs to its end. -/
def dropReturn (line : List Char) : List Char :=
  if line.getLast? = some '\r' then line.dropLast else line

/-- Reads the pieces between line feeds as lines: all but the last were ended by a line feed. -/
def closeLines (ps : List (List Char)) : List (List Char) :=
  ps.dropLast.map dropReturn ++ (ps.getLast?.toList.filter (· ≠ []))

/-- The lines of a sequence of characters. -/
def lines (cs : List Char) : List (List Char) := closeLines (pieces '\n' cs)

/-- The lines of a text. -/
def linesOf (s : String) : List String := (lines s.toList).map String.ofList

/-- Lines as a text, each with its line feed. -/
def unlines : List String → String
  | [] => ""
  | line :: rest => line ++ "\n" ++ unlines rest

theorem unlines_append (ls ls' : List String) :
    unlines (ls ++ ls') = unlines ls ++ unlines ls' := by
  induction ls with
  | nil => simp [unlines]
  | cons l ls ih => simp [unlines, ih, String.append_assoc]

/-- The first line is what stands before the first line feed, and the others are the lines of what
    follows it. -/
theorem lines_append_newline (line rest : List Char) (h : '\n' ∉ line) :
    lines (line ++ '\n' :: rest) = dropReturn line :: lines rest := by
  rw [lines, pieces_append_sep line rest h, lines, closeLines, closeLines,
    List.dropLast_cons_of_ne_nil (pieces_ne_nil '\n' rest),
    List.getLast?_cons_of_ne_nil (pieces_ne_nil '\n' rest)]
  rfl

end Ontotype.Text

import Flowsmith.Page.Basic
import Flowsmith.Text.Blank

/-!
Lines of code. What is left of a source without its comments is found line by line, so that of a
page comes from its lines. A line whose content breaks is several: a comment ends with the first of
them, and the others are code unless they begin comments themselves.
-/

namespace Flowsmith.Source

/-- Whether the first characters of a line that are not blank begin a comment. -/
def isComment (line : List Char) : Bool :=
  ['/', '/'].isPrefixOf (line.dropWhile Text.isBlank)

/-- The lines of a text that are no comments. -/
def codeLines (text : List Char) : List (List Char) :=
  (text.splitOn '\n').filter fun line => !isComment line

/-- The lines of a text, without the first, that are no comments. -/
def codeBelow (text : List Char) : List (List Char) :=
  (text.splitOn '\n').tail.filter fun line => !isComment line

/-- What stands in a line. -/
def Line.chars : Line → List Char
  | .blank => []
  | .text depth content => (margin depth).toList ++ content.toList

theorem codeLines_append (front back : List Char) :
    codeLines (front ++ '\n' :: back) = codeLines front ++ codeLines back := by
  rw [codeLines, List.splitOn_append_cons_self, List.filter_append]
  rfl

theorem Line.toList_render (line : Line) : line.render.toList = line.chars ++ ['\n'] := by
  cases line with
  | blank => rfl
  | text depth content =>
      rw [render, chars, String.toList_append, String.toList_append]
      rfl

/-- The code of lines in a row. -/
def codeOf (lines : List Line) : List (List Char) :=
  lines.flatMap fun line => codeLines line.chars

theorem codeOf_append (front back : List Line) :
    codeOf (front ++ back) = codeOf front ++ codeOf back :=
  List.flatMap_append

/-- The code of lines is that of each of them, in order; the last line break has an empty line after
    it. -/
theorem codeLines_renderAll (lines : List Line) :
    codeLines (Line.renderAll lines).toList = codeOf lines ++ [[]] := by
  rw [codeOf, Line.renderAll, String.toList_join, List.flatMap_map]
  induction lines with
  | nil => rfl
  | cons line rest ih =>
      rw [List.flatMap_cons, Line.toList_render, List.append_assoc, List.singleton_append,
        codeLines_append, ih, List.flatMap_cons, List.append_assoc]

theorem splitOn_append_of_not_mem {c : Char} {lead : List Char} (oneLine : c ∉ lead)
    (rest : List Char) : (lead ++ rest).splitOn c = (rest.splitOn c).modifyHead (lead ++ ·) := by
  induction lead with
  | nil => exact (congrFun List.modifyHead_id _).symm
  | cons d lead ih =>
      rw [List.mem_cons, not_or] at oneLine
      rw [List.cons_append, List.splitOn_cons_eq_if_modifyHead,
        if_neg (by simpa using Ne.symm oneLine.1), ih oneLine.2, List.modifyHead_modifyHead]
      rfl

/-- A text that begins a comment has its code below the first line. -/
theorem codeLines_comment {lead : List Char} (oneLine : '\n' ∉ '/' :: '/' :: lead)
    (rest : List Char) :
    codeLines ('/' :: '/' :: lead ++ rest) = codeBelow rest := by
  rw [codeLines, codeBelow, splitOn_append_of_not_mem oneLine]
  cases rest.splitOn '\n' with
  | nil => rfl
  | cons first others =>
      have comment : isComment ('/' :: '/' :: lead ++ first) = true := rfl
      rw [List.modifyHead_cons, List.filter_cons, comment, List.tail_cons]
      rfl

/-- A text of one line has no code below it. -/
theorem codeBelow_eq_nil {text : List Char} (oneLine : '\n' ∉ text) : codeBelow text = [] := by
  rw [codeBelow, List.splitOn_eq_singleton oneLine]
  rfl

end Flowsmith.Source

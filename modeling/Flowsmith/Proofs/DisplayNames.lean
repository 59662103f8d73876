import Flowsmith.Proofs.CodeLines
import Flowsmith.Proofs.Sheets

/-!
Display names in generated sources. The display name of a process stands in the documentation of two
of its types, as it is. So it changes no code as long as it is one line; what it has below its first
line is code, unless it begins with comments of its own.
-/

namespace Flowsmith

open Source

/-- A definition with another name. -/
def Definition.renamed (d : Definition) (name : Option String) : Definition :=
  { d with name }

/-- The code that a display name leaves below the line of documentation that it stands in. -/
def Definition.spill (d : Definition) : List (List Char) :=
  codeBelow (d.displayName.toList ++ "`.".toList)

/-- A name of one line leaves nothing below it. -/
theorem Definition.spill_eq_nil {d : Definition} (oneLine : '\n' ∉ d.displayName.toList) :
    d.spill = [] := by
  refine codeBelow_eq_nil ?_
  rw [List.mem_append, not_or]
  exact ⟨oneLine, by decide⟩

/-- What is left of a content without the comments of a source. -/
def Content.code : Content → List (List Char) ⊕ List UInt8
  | .text value => .inl (codeLines value.toList)
  | .binary bytes => .inr bytes

section Pages

theorem Page.code_text (p : Page) : (Content.text p.text).code = .inl (codeOf p.lines ++ [[]]) := by
  rw [Content.code, Page.text, codeLines_renderAll]

/-- A type that holds collaborators, with another documentation. -/
def Members.documented (m : Members) (doc : String) : Members :=
  { m with doc }

/-- The documentation of a type comes first in its lines and nowhere else. -/
theorem Members.lines_documented (m : Members) (doc : String) :
    (m.documented doc).lines = Line.text 0 s!"/// {doc}" :: m.lines.tail := rfl

/-- What a display name spills from the documentation of a type stands before the code of the
    type. -/
theorem codeOf_documented (m : Members) {lead : String} (oneLine : '\n' ∉ lead.toList)
    (name : String) :
    codeOf (m.documented (lead ++ name ++ "`.")).lines =
      codeBelow (name.toList ++ "`.".toList) ++ codeOf m.lines.tail := by
  have chars : (Line.text 0 ("/// " ++ (lead ++ name ++ "`."))).chars =
      '/' :: '/' :: ('/' :: ' ' :: lead.toList) ++ (name.toList ++ "`.".toList) := by
    simp [Line.chars, Line.margin]
  rw [Members.lines_documented, codeOf, List.flatMap_cons]
  change codeLines (Line.text 0 ("/// " ++ (lead ++ name ++ "`."))).chars ++ _ = _
  rw [chars, codeLines_comment (by simpa using oneLine)]
  rfl

/-- Two types that differ in their documentation have the same code exactly when the same is
    spilled. -/
theorem codeOf_documented_eq_iff (m : Members) {lead : String} (oneLine : '\n' ∉ lead.toList)
    (name name' : String) :
    codeOf (m.documented (lead ++ name ++ "`.")).lines =
      codeOf (m.documented (lead ++ name' ++ "`.")).lines ↔
      codeBelow (name.toList ++ "`.".toList) = codeBelow (name'.toList ++ "`.".toList) := by
  rw [codeOf_documented m oneLine, codeOf_documented m oneLine]
  exact List.append_left_inj _

/-- What stands around the type in the page of an entry point does not depend on the
    documentation. -/
theorem EntryPage.codeOf_lines_eq_iff (p : EntryPage) (doc doc' : String) :
    codeOf (lines { p with members := p.members.documented doc }) =
        codeOf (lines { p with members := p.members.documented doc' }) ↔
      codeOf (p.members.documented doc).lines = codeOf (p.members.documented doc').lines := by
  simp only [lines, List.flatten_cons, codeOf_append]
  exact (List.append_right_inj _).trans (List.append_left_inj _)

theorem RestPage.codeOf_lines_eq_iff (p : RestPage) (doc doc' : String) :
    codeOf (lines { p with members := p.members.documented doc }) =
        codeOf (lines { p with members := p.members.documented doc' }) ↔
      codeOf (p.members.documented doc).lines = codeOf (p.members.documented doc').lines := by
  simp only [lines, List.flatten_cons, codeOf_append]
  exact (List.append_right_inj _).trans (List.append_left_inj _)

end Pages

section Renaming

/-! Names are looked at by no stage but the pages. `rename` gives a process its new name, by its id
and its old name. -/

variable (rename : String → Option String → Option String)

/-- What was collected, renamed. -/
def Collected.renamed (c : Collected) : Collected :=
  { c with definition := c.definition.renamed (rename c.definition.id c.definition.name) }

/-- A unit, renamed. -/
def ProcessUnit.renamed (u : ProcessUnit) : ProcessUnit :=
  { u with source := u.source.renamed rename }

namespace Press

variable (press : Press) (u : ProcessUnit)

theorem calledFields_renamed : press.calledFields (u.renamed rename) = press.calledFields u := rfl

theorem entryPage_renamed (fields : List HostField) : press.entryPage (u.renamed rename) fields =
    { press.entryPage u fields with
      members := (press.entryPage u fields).members.documented
        ("Process `" ++ (u.renamed rename).definition.displayName ++ "`.") } := rfl

theorem restPage_renamed : press.restPage (u.renamed rename) =
    { press.restPage u with
      members := (press.restPage u).members.documented
        ("REST resource of process `" ++ (u.renamed rename).definition.displayName ++ "`.") } := rfl

/-- The page of an entry point keeps its code exactly when the old and the new name spill the
    same. -/
theorem code_entrySheet_renamed_iff (called : List HostField) :
    ((press.entrySheet (u.renamed rename) called).artifact (u.renamed rename).names).content.code =
        ((press.entrySheet u called).artifact u.names).content.code ↔
      (u.renamed rename).definition.spill = u.definition.spill := by
  have codes (v : ProcessUnit) : ((press.entrySheet v called).artifact v.names).content.code =
      .inl (codeOf (press.entryPage v (.application :: called)).lines ++ [[]]) := Page.code_text _
  rw [codes, codes, Sum.inl.injEq, List.append_left_inj, entryPage_renamed]
  exact (EntryPage.codeOf_lines_eq_iff (press.entryPage u _) _ _).trans
    (codeOf_documented_eq_iff _ (by decide) _ _)

theorem code_restSheet_renamed_iff :
    (Content.text (Page.rest (press.restPage (u.renamed rename))).text).code =
        (Content.text (Page.rest (press.restPage u)).text).code ↔
      (u.renamed rename).definition.spill = u.definition.spill := by
  rw [Page.code_text, Page.code_text, Sum.inl.injEq, List.append_left_inj, restPage_renamed]
  exact (RestPage.codeOf_lines_eq_iff (press.restPage u) _ _).trans
    (codeOf_documented_eq_iff _ (by decide) _ _)

end Press

end Renaming

end Flowsmith

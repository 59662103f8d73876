import Flowsmith.Container
import Flowsmith.Index
import Flowsmith.Proofs.Quoting

/-!
Whom a page was made for. The first line of each page names the process that it was generated from,
so a page is never mistaken for one of another process, nor for the container or the index.
-/

namespace Flowsmith

/-- The process that a page is made for; a bare type is made for none. -/
def Page.processId? : Page → Option String
  | .model p => some p.processId
  | .entry p => some p.processId
  | .runningInstance p => some p.processId
  | .rest p => some p.processId
  | .consumer p => some p.processId
  | .producer p => some p.processId
  | .members _ => none

/-- What stands before the id of the process in the first line. -/
def headerLead : String :=
  "// Generated by procflow-compile from process "

namespace Page

theorem exists_lines_eq {page : Page} {id : String} (owner : page.processId? = some id) :
    ∃ rest, page.lines = generatedFrom id :: rest := by
  cases page with
  | members p => exact absurd owner (by simp [processId?])
  | model p =>
      obtain rfl : p.processId = id := by simpa [processId?] using owner
      exact ⟨_, rfl⟩
  | entry p =>
      obtain rfl : p.processId = id := by simpa [processId?] using owner
      exact ⟨_, rfl⟩
  | runningInstance p =>
      obtain rfl : p.processId = id := by simpa [processId?] using owner
      exact ⟨_, rfl⟩
  | rest p =>
      obtain rfl : p.processId = id := by simpa [processId?] using owner
      exact ⟨_, rfl⟩
  | consumer p =>
      obtain rfl : p.processId = id := by simpa [processId?] using owner
      exact ⟨_, rfl⟩
  | producer p =>
      obtain rfl : p.processId = id := by simpa [processId?] using owner
      exact ⟨_, rfl⟩

private theorem toList_render_outermost (front middle back : String) :
    (Source.Line.text 0 (front ++ middle ++ back)).render.toList =
      front.toList ++ (middle.toList ++ (back.toList ++ ['\n'])) := by
  simp [Source.Line.render, Source.Line.margin]

theorem exists_toList_render_eq (id : String) :
    ∃ rest, (generatedFrom id).render.toList =
      headerLead.toList ++ ((Text.quoted id).toList ++ rest) :=
  ⟨_, toList_render_outermost headerLead (Text.quoted id) ". Do not edit."⟩

/-- The text of a page begins with the quoted id of its process. -/
theorem exists_toList_text_eq {page : Page} {id : String} (owner : page.processId? = some id) :
    ∃ rest, page.text.toList = headerLead.toList ++ ((Text.quoted id).toList ++ rest) := by
  obtain ⟨lines, first⟩ := exists_lines_eq owner
  obtain ⟨rest, header⟩ := exists_toList_render_eq id
  refine ⟨rest ++ (Source.Line.renderAll lines).toList, ?_⟩
  rw [Page.text, first, Source.Line.renderAll, List.map_cons, String.join_cons,
    String.toList_append, header, Source.Line.renderAll, List.append_assoc, List.append_assoc]

/-- Pages of different processes have different texts. -/
theorem processId_of_text_eq {page other : Page} {id id' : String}
    (owner : page.processId? = some id) (owner' : other.processId? = some id')
    (equal : page.text = other.text) : id = id' := by
  obtain ⟨rest, text⟩ := exists_toList_text_eq owner
  obtain ⟨rest', text'⟩ := exists_toList_text_eq owner'
  rw [equal, text'] at text
  exact (Text.quoted_append_inj (List.append_cancel_left text)).1.symm

end Page

private theorem toList_append_append (front middle back : String) :
    (front ++ middle ++ back).toList = front.toList ++ (middle.toList ++ back.toList) := by
  simp

/-- An artifact that holds a page of a process. -/
def Artifact.GeneratedFor (id : String) (a : Artifact) : Prop :=
  ∃ page : Page, page.processId? = some id ∧ a.content = .text page.text

namespace Artifact

/-- An artifact is generated for one process at most. -/
theorem generatedFor_unique {a : Artifact} {id id' : String} (first : a.GeneratedFor id)
    (second : a.GeneratedFor id') : id = id' := by
  obtain ⟨page, owner, content⟩ := first
  obtain ⟨page', owner', content'⟩ := second
  rw [content, Content.text.injEq] at content'
  exact Page.processId_of_text_eq owner owner' content'

/-- A page is not the text of the container, whose first line names no process. -/
theorem container_not_generatedFor (injected : Bool) (entries : List ContainerEntry) (id : String) :
    ¬ (Container.artifact injected entries).GeneratedFor id := by
  rintro ⟨page, owner, content⟩
  obtain ⟨rest, text⟩ := Page.exists_toList_text_eq owner
  have same : Container.text injected entries = page.text := Content.text.inj content
  rw [← same] at text
  -- The first lines part after the name of the program.
  have parting := congrArg (fun cs => cs[32]?) ((toList_append_append _ _ _).symm.trans text)
  simp [headerLead] at parting

/-- A page is not the text of the index, which begins with a bracket. -/
theorem index_not_generatedFor (i : Index) (id : String) : ¬ i.artifact.GeneratedFor id := by
  rintro ⟨page, owner, content⟩
  obtain ⟨rest, text⟩ := Page.exists_toList_text_eq owner
  have same : i.toJson.pretty = page.text := Content.text.inj content
  have head : i.toJson.pretty.toList.head? = some '\x7b' := by
    simp [Index.toJson, Json.pretty, Json.prettyAt, Json.prettyFields, Json.layOut]
  rw [same, text] at head
  simp [headerLead] at head

/-- A copied resource is no page. -/
theorem copy_not_generatedFor (package resource : String) (contents : List UInt8) (id : String) :
    ¬ (resourceCopy package resource contents).GeneratedFor id := by
  rintro ⟨page, -, content⟩
  exact absurd content (by simp [resourceCopy])

end Artifact

end Flowsmith

import Flowsmith.Batch.Sources
import Flowsmith.Proofs.ClassFiles
import Flowsmith.Proofs.Headers
import Flowsmith.Proofs.Results

/-!
The pages of a process, under the built-in engine. The core and the optional artifacts of a process
are sheets: a page with the type that it declares and its category. The only way for the core to
fail is a called process that cannot be called.
-/

namespace Flowsmith

/-- A page, the type that it is for, and what it is. -/
structure Sheet where
  className : String
  category : Category
  page : Page

/-- The artifact of a sheet. -/
def Sheet.artifact (names : Names) (s : Sheet) : Artifact :=
  { path := names.classPath s.className, content := .text s.page.text, category := s.category }

@[simp] theorem Sheet.artifact_path (names : Names) (s : Sheet) :
    (s.artifact names).path = names.classPath s.className := by
  simp only [Sheet.artifact]

/-- The line that declares a type. -/
def structLine (className : String) : Source.Line :=
  .text 0 ("pub struct " ++ className ++ " \x7b")

theorem Members.structLine_mem (m : Members) : structLine m.className ∈ m.lines :=
  List.mem_flatten.2 ⟨_, .tail _ (.tail _ (.head _)), .head _⟩

namespace ProcessUnit

/-- The types of the core of a process, and their categories. Some kinds of process have no data
    models. -/
def coreClasses (u : ProcessUnit) : List (String × Category) :=
  (if u.definition.kind.isModelless then []
    else [(u.names.modelClass, .model), (u.names.inputModelClass, .model),
      (u.names.outputModelClass, .model)]) ++
    [(u.names.processClass, .process), (u.names.instanceClass, .processInstance)]

/-- The data models of a process are there unless its kind has none, and go by its names. -/
def IsModelled (u : ProcessUnit) : Prop :=
  if u.definition.kind.isModelless then u.models = none
  else ∃ models, u.models = some models ∧ models.full.className = u.names.modelClass ∧
    models.input.className = u.names.inputModelClass ∧
    models.output.className = u.names.outputModelClass

theorem isSome_models {u : ProcessUnit} (modelled : u.IsModelled) :
    u.models.isSome = !u.definition.kind.isModelless := by
  unfold IsModelled at modelled
  split at modelled
  · rename_i modelless
    rw [modelled, modelless]
    rfl
  · rename_i notModelless
    obtain ⟨models, isSome, -⟩ := modelled
    rw [isSome, Bool.eq_false_iff.2 notModelless]
    rfl

/-- The types of the core have a file each. -/
theorem pairwise_coreClasses (u : ProcessUnit) :
    u.coreClasses.Pairwise fun c d =>
      (u.names.classPath c.1).same (u.names.classPath d.1) = false := by
  have all := Names.pairwise_fixedClasses u.names
  have part : (u.coreClasses.map Prod.fst).Sublist u.names.fixedClasses := by
    unfold coreClasses Names.fixedClasses
    split
    · simp only [List.nil_append, List.map_cons, List.map_nil]
      exact ((List.sublist_append_left [_, _] [_]).trans (List.sublist_append_right [_, _, _] _))
    · simp
  have apart := all.sublist part
  rwa [List.pairwise_map] at apart

theorem isClass_of_mem_coreClasses {u : ProcessUnit} {c : String × Category}
    (member : c ∈ u.coreClasses) : u.names.IsClass c.1 := by
  refine .fixed ?_
  unfold coreClasses at member
  split at member
  all_goals
    simp only [List.nil_append, List.cons_append, List.mem_cons, List.not_mem_nil,
      or_false] at member
    unfold Names.fixedClasses
    rcases member with rfl | rfl | rfl | rfl | rfl <;> simp

end ProcessUnit

namespace Press

/-- The fields that hold the called processes. -/
def calledFields (press : Press) (u : ProcessUnit) : Except Failure (List HostField) :=
  u.executable.subProcesses.fields.entries.mapM (press.subProcessField u)

/-- The sheet of a data model. -/
def modelSheet (u : ProcessUnit) (m : DataModel) : Sheet :=
  ⟨m.className, .model, .model (ModelPage.ofModel u.definition.id m)⟩

/-- The sheets of the data models. -/
def modelSheets (u : ProcessUnit) : List Sheet :=
  match u.models with
  | none => []
  | some models => models.toList.map (modelSheet u)

/-- The sheet of the entry point. -/
def entrySheet (press : Press) (u : ProcessUnit) (called : List HostField) : Sheet :=
  ⟨u.names.processClass, .process, .entry (press.entryPage u (.application :: called))⟩

/-- The sheet of the instance. -/
def instanceSheet (u : ProcessUnit) : Sheet :=
  ⟨u.names.instanceClass, .processInstance, .runningInstance (instancePage u)⟩

/-- The sheets of the core, once the called processes have fields. -/
def coreSheets (press : Press) (u : ProcessUnit) (called : List HostField) : List Sheet :=
  modelSheets u ++ [press.entrySheet u called, instanceSheet u]

/-- The sheet of the REST resource, if there is to be one. -/
def restSheets (press : Press) (u : ProcessUnit) : List Sheet :=
  if press.exposesRest u then
    [⟨u.names.resourceClass, .rest, .rest (press.restPage u)⟩]
  else []

/-- The sheet of the consumer of a trigger. -/
def consumerSheet (press : Press) (u : ProcessUnit) (t : Trigger) : Sheet :=
  ⟨u.names.consumerClass t.name, .messageConsumer, .consumer (press.consumerPage u t)⟩

/-- The sheet of the producer of a trigger. -/
def producerSheet (press : Press) (u : ProcessUnit) (t : Trigger) : Sheet :=
  ⟨u.names.producerClass t.name, .messageProducer, .producer (press.producerPage u t)⟩

/-- The sheets beyond the core. -/
def optionalSheets (press : Press) (u : ProcessUnit) : List Sheet :=
  press.restSheets u ++ (u.distinctTriggers .consume).map (press.consumerSheet u) ++
    (u.distinctTriggers .produce).map (press.producerSheet u)

variable {press : Press} {u : ProcessUnit}

/-- A field for a called process has the name that it was given. -/
theorem subProcessField_eq_ok {entry : String × String} {f : HostField}
    (ok : press.subProcessField u entry = .ok f) :
    ∃ names, press.callable.get? entry.1 = some names ∧
      f = .subProcess entry.2 (names.classModulePath names.processClass) := by
  unfold subProcessField at ok
  cases callable : press.callable.get? entry.1 with
  | none => simp [callable] at ok
  | some names => exact ⟨names, rfl, by simpa [callable, eq_comm] using ok⟩

theorem artifact_builtin (builtin : press.engine = .builtin) (names : Names) (s : Sheet) :
    press.artifact names s.className s.category s.page = .ok (s.artifact names) := by
  unfold artifact
  rw [builtin]
  rfl

theorem modelArtifacts_builtin (builtin : press.engine = .builtin) :
    press.modelArtifacts u = .ok ((modelSheets u).map (Sheet.artifact u.names)) := by
  unfold modelArtifacts modelSheets
  cases u.models with
  | none => rfl
  | some models =>
      have each : press.modelArtifact u =
          fun m => (.ok ((modelSheet u m).artifact u.names) : Except Failure Artifact) := by
        funext m
        exact artifact_builtin builtin u.names (modelSheet u m)
      simp only [each, List.map_map]
      exact List.mapM_pure

theorem entryArtifact_builtin (builtin : press.engine = .builtin) :
    press.entryArtifact u =
      (press.calledFields u).map fun called => (press.entrySheet u called).artifact u.names := by
  unfold entryArtifact calledFields
  cases u.executable.subProcesses.fields.entries.mapM (press.subProcessField u) with
  | error failure => rfl
  | ok called => exact artifact_builtin builtin u.names (press.entrySheet u called)

theorem instanceArtifact_builtin (builtin : press.engine = .builtin) :
    press.instanceArtifact u = .ok ((instanceSheet u).artifact u.names) :=
  artifact_builtin builtin u.names (instanceSheet u)

/-- The core is made of its sheets, unless a called process cannot be called. -/
theorem coreArtifacts_builtin (builtin : press.engine = .builtin) :
    press.coreArtifacts u =
      (press.calledFields u).map fun called =>
        (press.coreSheets u called).map (Sheet.artifact u.names) := by
  unfold coreArtifacts
  rw [modelArtifacts_builtin builtin, entryArtifact_builtin builtin,
    instanceArtifact_builtin builtin]
  cases press.calledFields u with
  | error failure => rfl
  | ok called => simp [bind, Except.bind, pure, Except.pure, Except.map, coreSheets]

theorem optionalArtifacts_builtin (builtin : press.engine = .builtin) :
    press.optionalArtifacts u =
      (press.optionalSheets u).map fun s => .ok (s.artifact u.names) := by
  have rest : press.restArtifacts u =
      (press.restSheets u).map fun s => .ok (s.artifact u.names) := by
    unfold restArtifacts restSheets
    split
    · rw [List.map_cons, List.map_nil, ← artifact_builtin builtin]
    · rfl
  have consumers : press.consumerArtifact u =
      fun t => (.ok ((press.consumerSheet u t).artifact u.names) : Except Failure Artifact) := by
    funext t
    exact artifact_builtin builtin u.names (press.consumerSheet u t)
  have producers : press.producerArtifact u =
      fun t => (.ok ((press.producerSheet u t).artifact u.names) : Except Failure Artifact) := by
    funext t
    exact artifact_builtin builtin u.names (press.producerSheet u t)
  unfold optionalArtifacts optionalSheets
  rw [rest, consumers, producers]
  simp only [List.map_append, List.map_map, Function.comp_def]

/-- The sheets of the core are those of its types. -/
theorem coreSheets_classes (modelled : u.IsModelled) (called : List HostField) :
    (press.coreSheets u called).map (fun s => (s.className, s.category)) = u.coreClasses := by
  unfold ProcessUnit.IsModelled at modelled
  unfold coreSheets modelSheets ProcessUnit.coreClasses
  split at modelled
  · rename_i modelless
    rw [modelled, if_pos modelless]
    rfl
  · rename_i notModelless
    obtain ⟨models, isSome, full, input, output⟩ := modelled
    rw [isSome, if_neg notModelless]
    simp [DataModels.toList, modelSheet, full, input, output, entrySheet, instanceSheet]

/-- A sheet of a process: its page is made for the process and declares the type of the sheet. -/
def IsSheetOf (u : ProcessUnit) (s : Sheet) : Prop :=
  s.page.processId? = some u.definition.id ∧ structLine s.className ∈ s.page.lines

theorem isSheetOf_of_mem_modelSheets {s : Sheet} (member : s ∈ modelSheets u) : IsSheetOf u s := by
  unfold modelSheets at member
  split at member
  · exact absurd member (List.not_mem_nil)
  · obtain ⟨m, -, rfl⟩ := List.mem_map.1 member
    exact ⟨rfl, List.mem_flatten.2 ⟨_, .tail _ (.head _), .head _⟩⟩

theorem isSheetOf_entrySheet (called : List HostField) : IsSheetOf u (press.entrySheet u called) :=
  ⟨rfl, List.mem_flatten.2 ⟨_, .tail _ (.head _), Members.structLine_mem _⟩⟩

theorem isSheetOf_instanceSheet : IsSheetOf u (instanceSheet u) :=
  ⟨rfl, List.mem_flatten.2 ⟨_, .tail _ (.head _), .head _⟩⟩

theorem isSheetOf_restSheet :
    IsSheetOf u ⟨u.names.resourceClass, .rest, .rest (press.restPage u)⟩ :=
  ⟨rfl, List.mem_flatten.2 ⟨_, .tail _ (.head _), Members.structLine_mem _⟩⟩

theorem isSheetOf_of_mem_coreSheets {s : Sheet} {called : List HostField}
    (member : s ∈ press.coreSheets u called) : IsSheetOf u s := by
  simp only [coreSheets, List.mem_append, List.mem_cons, List.not_mem_nil, or_false] at member
  rcases member with inModels | rfl | rfl
  · exact isSheetOf_of_mem_modelSheets inModels
  · exact isSheetOf_entrySheet called
  · exact isSheetOf_instanceSheet

theorem mem_optionalSheets {s : Sheet} :
    s ∈ press.optionalSheets u ↔
      (press.exposesRest u = true ∧ s = ⟨u.names.resourceClass, .rest, .rest (press.restPage u)⟩) ∨
      (∃ t ∈ u.distinctTriggers .consume, s = press.consumerSheet u t) ∨
      ∃ t ∈ u.distinctTriggers .produce, s = press.producerSheet u t := by
  unfold optionalSheets restSheets
  split <;> simp [*, eq_comm]

theorem isSheetOf_of_mem_optionalSheets {s : Sheet} (member : s ∈ press.optionalSheets u) :
    IsSheetOf u s := by
  rcases mem_optionalSheets.1 member with ⟨-, rfl⟩ | ⟨t, -, rfl⟩ | ⟨t, -, rfl⟩
  · exact isSheetOf_restSheet
  · exact ⟨rfl, List.mem_flatten.2 ⟨_, .tail _ (.head _), Members.structLine_mem _⟩⟩
  · exact ⟨rfl, List.mem_flatten.2 ⟨_, .tail _ (.head _), Members.structLine_mem _⟩⟩

theorem isClass_of_mem_coreSheets {s : Sheet} {called : List HostField} (modelled : u.IsModelled)
    (member : s ∈ press.coreSheets u called) : u.names.IsClass s.className := by
  have class_mem := List.mem_map_of_mem (f := fun s : Sheet => (s.className, s.category)) member
  rw [coreSheets_classes modelled] at class_mem
  exact ProcessUnit.isClass_of_mem_coreClasses class_mem

/-- The artifacts that are made for a process, whether or not its core succeeds as a whole. -/
inductive Produces (press : Press) (u : ProcessUnit) (a : Artifact) : Prop
  | model {models : List Artifact} (made : press.modelArtifacts u = .ok models)
      (member : a ∈ models)
  | entry (made : press.entryArtifact u = .ok a)
  | runningInstance (made : press.instanceArtifact u = .ok a)
  | optional (made : .ok a ∈ press.optionalArtifacts u)

end Press

theorem Press.IsSheetOf.generatedFor {u : ProcessUnit} {s : Sheet} (sheet : IsSheetOf u s)
    (names : Names) : (s.artifact names).GeneratedFor u.definition.id :=
  ⟨s.page, sheet.1, rfl⟩

/-- What is made for a process holds a page of it. -/
theorem Press.Produces.generatedFor {press : Press} {u : ProcessUnit} {a : Artifact}
    (builtin : press.engine = .builtin) (produced : press.Produces u a) :
    a.GeneratedFor u.definition.id := by
  cases produced with
  | model made member =>
      rw [modelArtifacts_builtin builtin, Except.ok.injEq] at made
      rw [← made] at member
      obtain ⟨s, inSheets, rfl⟩ := List.mem_map.1 member
      exact (isSheetOf_of_mem_modelSheets inSheets).generatedFor _
  | entry made =>
      rw [entryArtifact_builtin builtin] at made
      cases fields : press.calledFields u with
      | error failure => simp [fields, Except.map] at made
      | ok called =>
          rw [fields] at made
          rw [← Except.ok.inj made]
          exact (isSheetOf_entrySheet called).generatedFor _
  | runningInstance made =>
      rw [instanceArtifact_builtin builtin, Except.ok.injEq] at made
      rw [← made]
      exact isSheetOf_instanceSheet.generatedFor _
  | optional made =>
      rw [optionalArtifacts_builtin builtin] at made
      obtain ⟨s, inSheets, equal⟩ := List.mem_map.1 made
      rw [← Except.ok.inj equal]
      exact (isSheetOf_of_mem_optionalSheets inSheets).generatedFor _

end Flowsmith

import Flowsmith.Proofs.ContainerText
import Flowsmith.Proofs.References
import Flowsmith.Proofs.Stages

/-!
Core artifacts are all or nothing. The outcome of a compilation holds the whole core of each
compiled process, as it was made, and nothing of any other process; so what the sources of a process
and the container refer to is there. References and declarations are read off the lines of code. A
text that a comment quotes can break out of it, and what it refers to then need not be there.
-/

namespace Flowsmith

open Source

/-- An artifact that was generated for a process and declares a type in its code. -/
structure Artifact.Declares (id className : String) (a : Artifact) : Prop where
  generatedFor : a.GeneratedFor id
  declared : ∃ text, a.content = .text text ∧
    ("pub struct " ++ className ++ " \x7b").toList ∈ codeLines text.toList

/-- The qualified name of a type of a process leads to a file of the set that declares the type, and
    that was generated for the process. -/
def ArtifactSet.Resolves (set : ArtifactSet) (u : ProcessUnit) (className : String) : Prop :=
  ∃ a, set.get? (fileOfSegments (u.names.classSegments className)) = some a ∧
    a.Declares u.definition.id className

/-- The types that the core of a process can have. -/
def Names.coreTypes (n : Names) : List String :=
  n.modelClasses ++ [n.processClass, n.instanceClass]

/-- What a set of artifacts holds of a process: the whole core, each type at its own place, and
    whatever the sources of the process refer to among its own types. -/
structure ArtifactSet.HoldsCore (set : ArtifactSet) (press : Press) (u : ProcessUnit)
    (called : List HostField) : Prop where
  /-- The core was made of these sheets. -/
  core : press.coreArtifacts u = .ok ((press.coreSheets u called).map (Sheet.artifact u.names))
  /-- What goes beyond the core was made of those. -/
  optional : press.optionalArtifacts u = (press.optionalSheets u).map fun s =>
    .ok (s.artifact u.names)
  /-- There is a sheet for each type of the core. -/
  classes : (press.coreSheets u called).map (fun s => (s.className, s.category)) = u.coreClasses
  /-- At the place of each type is its own sheet. -/
  held : ∀ s ∈ press.coreSheets u called,
    set.get? (u.names.classPath s.className) = some (s.artifact u.names)
  /-- The entry point refers to the type of instances. -/
  entry : ∃ a, set.get? (u.names.classPath u.names.processClass) = some a ∧
    u.names.classSegments u.names.instanceClass ∈ a.references
  /-- The type of instances refers to the data model, if there is one. -/
  instances : u.definition.kind.isModelless = false →
    ∃ a, set.get? (u.names.classPath u.names.instanceClass) = some a ∧
      u.names.classSegments u.names.modelClass ∈ a.references
  /-- What the sources of the process refer to among its types is there, or breaks out of a
      comment. -/
  references : ∀ a ∈ set.artifacts, a.GeneratedFor u.definition.id →
    ∀ className ∈ u.names.coreTypes, ∀ r ∈ a.references,
      RefersTo (u.names.classSegments className) r →
        set.Resolves u className ∨ r ∈ u.spilledReferences
  /-- Where no comment is broken, all of it is there. -/
  unbroken : (∀ remark ∈ u.remarks, '\n' ∉ remark.toList) →
    ∀ a ∈ set.artifacts, a.GeneratedFor u.definition.id →
      ∀ className ∈ u.names.coreTypes, ∀ r ∈ a.references,
        RefersTo (u.names.classSegments className) r → set.Resolves u className

/-- A set of artifacts has a container that lists these processes, makes their entry points, and
    names nothing else. -/
structure ArtifactSet.HoldsContainer (set : ArtifactSet) (injected : Bool)
    (units : List ProcessUnit) (text : String) : Prop where
  held : ∃ a, set.get? Container.path = some a ∧ a.content = .text text
  /-- The processes are listed by their ids. -/
  listed : Container.listedIds text = units.map fun u => Text.literal u.definition.id
  /-- There is a branch for each process, which names its type. -/
  branches : Container.arms text = units.map fun u => (Text.literal u.definition.id,
    [ContainerEntry.named injected (u.names.classSegments u.names.processClass)])
  /-- All that the container refers to are these types. -/
  references : readCode referencesIn text = units.map fun u =>
    ContainerEntry.named injected (u.names.classSegments u.names.processClass)
  /-- The types are there. -/
  resolves : ∀ u ∈ units, set.Resolves u u.names.processClass

variable {config : Config} {b : Batch} {u : ProcessUnit}

theorem Press.IsSheetOf.declares {s : Sheet} (sheet : Press.IsSheetOf u s)
    (owned : u.names.IsClass s.className) :
    (s.artifact u.names).Declares u.definition.id s.className := by
  refine ⟨sheet.generatedFor _, ⟨_, rfl, ?_⟩⟩
  have oneLine : '\n' ∉ ("pub struct " ++ s.className ++ " \x7b").toList := by
    simp only [String.toList_append, List.mem_append, not_or]
    exact ⟨⟨by decide, newline_not_mem_word owned.isWord.1⟩, by decide⟩
  have begins : opensCode ("pub struct " ++ s.className ++ " \x7b").toList = true := by
    simp only [String.toList_append, List.append_assoc]
    exact opensCode_append (by decide) _
  have line := mem_codeLines_renderAll sheet.2 oneLine begins
  rwa [Line.chars_text, Nat.mul_zero] at line

namespace Batch

theorem isLowered_of_mem_units (member : u ∈ b.units config) : u.IsLowered where
  executable := executable_of_mem_units member
  modelled := isModelled_of_mem_units member
  fields _ isSome _ inModels :=
    DataModels.exists_variable_of_derive (derive_of_mem_units member isSome) inModels

/-- What can be called goes by the names of its id and package. -/
theorem exists_ofId_of_callable (child : String) (names : Names)
    (callable : (b.press config).callable.get? child = some names) :
    ∃ id package, names = Names.ofId id package := by
  obtain ⟨u, -, -, rfl⟩ := callable_get? callable
  exact ⟨_, _, rfl⟩

/-- The core of a compiled process is in the outcome. -/
theorem held_core (compiled : u ∈ (b.progress config).compiled) :
    ∃ called, (b.press config).calledFields u = .ok called ∧
      ∀ s ∈ (b.press config).coreSheets u called,
        (b.compile (.ofConfig config) config).artifacts.get? (u.names.classPath s.className) =
          some (s.artifact u.names) := by
  obtain ⟨core, made, held⟩ := sound_progress.held u compiled
  obtain ⟨called, fields, rfl⟩ := Press.exists_coreSheets press_engine made
  refine ⟨called, fields, ?_⟩
  intro s inSheets
  have found := held _ (List.mem_map_of_mem inSheets)
  rw [Sheet.artifact_path] at found
  rw [compile_artifacts]
  exact Progress.get?_allArtifacts_of_get? found

/-- The types of the core of a compiled process are found by their qualified names. -/
theorem resolves_of_mem_coreClasses (plain : PlainPackage u.names.package)
    (compiled : u ∈ (b.progress config).compiled) {className : String} {category : Category}
    (inCore : (className, category) ∈ u.coreClasses) :
    (b.compile (.ofConfig config) config).artifacts.Resolves u className := by
  obtain ⟨called, -, held⟩ := held_core compiled
  have owned := ProcessUnit.isClass_of_mem_coreClasses inCore
  have modelled := isModelled_of_mem_units (mem_units_of_compiled compiled)
  rw [← Press.coreSheets_classes modelled called] at inCore
  obtain ⟨s, inSheets, equal⟩ := List.mem_map.1 inCore
  obtain ⟨rfl, rfl⟩ := Prod.mk.inj equal
  refine ⟨s.artifact u.names, ?_, (Press.isSheetOf_of_mem_coreSheets inSheets).declares owned⟩
  rw [fileOfSegments_classSegments plain]
  exact held s inSheets

/-- What a source of a compiled process has in its code is what its pages may refer to. -/
theorem mayRefer_of_mem_references (distinct : (b.members.map Collected.id).Nodup)
    (compiled : u ∈ (b.progress config).compiled) {a : Artifact}
    (member : a ∈ (b.compile (.ofConfig config) config).artifacts.artifacts)
    (generated : a.GeneratedFor u.definition.id) :
    ∀ r ∈ a.references, (b.press config).MayRefer u r := by
  rw [compile_artifacts] at member
  obtain ⟨v, compiled', source⟩ :=
    sound_progress.origin a (Progress.mem_artifacts_of_generatedFor member generated)
  have sameId := Artifact.generatedFor_unique source.generatedFor generated
  obtain rfl := eq_of_mem_units distinct (mem_units_of_compiled compiled')
    (mem_units_of_compiled compiled) sameId
  obtain ⟨called, fields, s, inSheets, rfl⟩ := source
  obtain ⟨fns, said⟩ := Press.says_sheet (isLowered_of_mem_units (mem_units_of_compiled compiled))
    exists_ofId_of_callable fields inSheets
  rw [Artifact.references_eq rfl]
  exact said.readCode_references

theorem holdsCore_of_compiled (distinct : (b.members.map Collected.id).Nodup)
    (plain : PlainPackage u.names.package) (compiled : u ∈ (b.progress config).compiled) :
    ∃ called,
      (b.compile (.ofConfig config) config).artifacts.HoldsCore (b.press config) u called := by
  have modelled := isModelled_of_mem_units (mem_units_of_compiled compiled)
  obtain ⟨called, fields, held⟩ := held_core compiled
  have references : ∀ a ∈ (b.compile (.ofConfig config) config).artifacts.artifacts,
      a.GeneratedFor u.definition.id → ∀ className ∈ u.names.coreTypes, ∀ r ∈ a.references,
        RefersTo (u.names.classSegments className) r →
          (b.compile (.ofConfig config) config).artifacts.Resolves u className ∨
            r ∈ u.spilledReferences := by
    intro a member generated className own r inReferences refers
    have may := mayRefer_of_mem_references distinct compiled member generated r inReferences
    rcases Press.mem_coreClasses_of_mayRefer may own refers with ⟨category, inCore⟩ | spilled
    · exact .inl (resolves_of_mem_coreClasses plain compiled inCore)
    · exact .inr spilled
  refine ⟨called, ?_, Press.optionalArtifacts_builtin press_engine,
    Press.coreSheets_classes modelled called, held, ?_, ?_, references, ?_⟩
  · rw [Press.coreArtifacts_builtin press_engine, fields]
    rfl
  · have owned : u.names.IsClass u.names.instanceClass := .fixed (by simp [Names.fixedClasses])
    have named : u.names.classSegments u.names.instanceClass ∈
        (((b.press config).entrySheet u called).artifact u.names).references := by
      rw [Artifact.references_eq rfl]
      exact EntryPage.mem_references_instance
        (p := (b.press config).entryPage u (.application :: called)) owned.isQualified rfl
    exact ⟨_, held ((b.press config).entrySheet u called) (by simp [Press.coreSheets]), named⟩
  · intro hasModels
    have owned : u.names.IsClass u.names.modelClass := .fixed (by simp [Names.fixedClasses])
    have isPath : u.modelPath u.names.modelClass = u.names.classModulePath u.names.modelClass := by
      rw [ProcessUnit.modelPath, ProcessUnit.isSome_models modelled, hasModels]
      rfl
    have named : u.names.classSegments u.names.modelClass ∈
        ((Press.instanceSheet u).artifact u.names).references := by
      rw [Artifact.references_eq rfl]
      exact InstancePage.mem_references_model (p := Press.instancePage u) owned.isQualified isPath
    exact ⟨_, held (Press.instanceSheet u) (by simp [Press.coreSheets]), named⟩
  · intro whole a member generated className own r inReferences refers
    rcases references a member generated className own r inReferences refers with found | spilled
    · exact found
    · rw [ProcessUnit.spilledReferences_eq_nil whole] at spilled
      exact absurd spilled (List.not_mem_nil)

/-- The entry point of a compiled process is found by its qualified name. -/
theorem resolves_processClass (plain : PlainPackage u.names.package)
    (compiled : u ∈ (b.progress config).compiled) :
    (b.compile (.ofConfig config) config).artifacts.Resolves u u.names.processClass := by
  have inCore : (u.names.processClass, Category.process) ∈ u.coreClasses := by
    simp [ProcessUnit.coreClasses]
  exact resolves_of_mem_coreClasses plain compiled inCore

/-- The entries of the container are those of the compiled processes, each with its qualified
    name. -/
theorem map_containerEntry (units : List ProcessUnit) : units.map ProcessUnit.containerEntry =
    (units.map fun u => (u.definition.id, u.names.classSegments u.names.processClass)).map
      Container.entryOf := by
  rw [List.map_map]
  rfl

theorem isQualified_processClass (units : List ProcessUnit) :
    ∀ e ∈ units.map fun u => (u.definition.id, u.names.classSegments u.names.processClass),
      IsQualified e.2 := by
  rw [List.forall_mem_map]
  intro u _
  have owned : u.names.IsClass u.names.processClass := .fixed (by simp [Names.fixedClasses])
  exact owned.isQualified

/-- The container makes the entry points of the compiled processes. -/
theorem exists_holdsContainer (plain : ∀ u ∈ b.units config, PlainPackage u.names.package) :
    ∃ text, (b.compile (.ofConfig config) config).artifacts.HoldsContainer config.injection.injects
      (b.progress config).compiled text := by
  have qualified := isQualified_processClass (b.progress config).compiled
  have listed := Container.listedIds_text config.injection.injects qualified
  have arms := Container.arms_text config.injection.injects qualified
  have references := Container.references_text config.injection.injects qualified
  rw [← map_containerEntry, List.map_map] at listed arms references
  refine ⟨_, ⟨_, compile_container, rfl⟩, listed, arms, references, ?_⟩
  intro u compiled
  exact resolves_processClass (plain u (mem_units_of_compiled compiled)) compiled

end Batch

/-- The core artifacts of an outcome are all or nothing, and refer to one another. -/
structure Output.CoreConsistent (config : Config) (collected : List Collected) (batch : Batch)
    (output : Output) : Prop where
  /-- The core of a compiled process is there, and so is what its sources refer to among its
      types. -/
  compiled : ∀ id ∈ output.compiled, ∃ u ∈ batch.units config, u.definition.id = id ∧
    ∃ called, output.artifacts.HoldsCore (batch.press config) u called
  /-- Nothing that is made for another process of the batch is there. -/
  others : ∀ c ∈ collected, c.id ∉ output.compiled →
    ∀ u : ProcessUnit, u.definition.id = c.id →
      ∀ a, (batch.press config).Produces u a → a ∉ output.artifacts.artifacts
  /-- The container makes the entry points of the compiled processes, whose types are there. -/
  container : ∃ units, units ⊆ batch.units config ∧
    units.map (fun u => u.definition.id) = output.compiled ∧
    ∃ text, output.artifacts.HoldsContainer config.injection.injects units text

/-- A process that starts and ends. -/
def Definition.idle (id : String) : Definition :=
  { id
    package := "p"
    nodes := [{ id := "s", kind := .start none }, { id := "e", kind := .finish none }]
    connections := [⟨"s", "e"⟩] }

/-- A process without data, whose name ends its line of documentation and goes on with a function
    that takes a data model of the process. -/
def Definition.outspoken : Definition :=
  { Definition.idle "a" with
    kind := .placeholder
    name := some "x`.\nfn f(_: crate::p::amodel::AModel) \x7b\x7d\n// `" }

/-- The batch of that process alone. -/
def outspokenBatch : Batch :=
  .ofGathered false (Gathered.ofInput [.json] [.outspoken] [])

end Flowsmith

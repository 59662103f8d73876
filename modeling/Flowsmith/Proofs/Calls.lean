import Flowsmith.Proofs.CalledProcesses
import Flowsmith.Proofs.CoreConsistency

/-!
Calls between compiled processes. A compiled process calls only processes that were lowered, and
refers to their entry points. Such a process is compiled as well unless it calls a process that was
not lowered, or another process holds a place of its core; these two failures come too late for its
callers.
-/

namespace Flowsmith

variable {config : Config} {b : Batch} {u caller callee : ProcessUnit}

/-- Nothing is wrong with a process itself once it is lowered: what it calls was lowered, and the
    places of its core are held for no other process. -/
structure Batch.Undisturbed (config : Config) (b : Batch) (set : ArtifactSet) (u : ProcessUnit) :
    Prop where
  /-- Each process that it calls was lowered. -/
  calls : ∀ child ∈ u.definition.calls, ∃ v ∈ b.units config, v.definition.id = child
  /-- What is found at a place of its core was generated for it. -/
  places : ∀ c ∈ u.coreClasses, ∀ a, set.get? (u.names.classPath c.1) = some a →
    a.GeneratedFor u.definition.id

/-- The source of a process names the type of another in the declaration of its own type and, unless
    its fields are handed in, makes a value of it in its constructor. -/
def ArtifactSet.HoldsCall (set : ArtifactSet) (injection : Injection)
    (caller callee : ProcessUnit) :
    Prop :=
  ∃ a, set.get? (caller.names.classPath caller.names.processClass) = some a ∧
    callee.names.classSegments callee.names.processClass ∈
      a.fieldTypes caller.names.processClass ∧
    (injection = .none →
      callee.names.classSegments callee.names.processClass ++ ["new"] ∈ a.constructed)

namespace Batch

/-- The core of a lowered process is made exactly when the processes that it calls were lowered. -/
theorem exists_coreArtifacts_iff_calls (member : u ∈ b.units config) :
    (∃ core, (b.press config).coreArtifacts u = .ok core) ↔
      ∀ child ∈ u.definition.calls, ∃ v ∈ b.units config, v.definition.id = child := by
  rw [Press.exists_coreArtifacts_iff press_engine]
  have fields := Executable.fields_ofDefinition (executable_of_mem_units member)
  constructor
  · intro all child calls
    exact isSome_callable_iff.1 (all child ((fields child).2 calls))
  · intro all child isField
    exact isSome_callable_iff.2 (all child ((fields child).1 isField))

theorem undisturbed_of_compiled (compiled : u ∈ (b.progress config).compiled) :
    b.Undisturbed config (b.compile (.ofConfig config) config).artifacts u := by
  have member := mem_units_of_compiled compiled
  have modelled := isModelled_of_mem_units member
  obtain ⟨core, made, -⟩ := sound_progress.held u compiled
  obtain ⟨called, -, held⟩ := held_core compiled
  constructor
  · exact (exists_coreArtifacts_iff_calls member).1 ⟨core, made⟩
  · intro c inCore a found
    have classes : ((b.press config).coreSheets u called).map (fun s => (s.className, s.category)) =
        u.coreClasses := Press.coreSheets_classes modelled called
    rw [← classes] at inCore
    obtain ⟨s, inSheets, rfl⟩ := List.mem_map.1 inCore
    rw [held s inSheets] at found
    rw [← Option.some.inj found]
    exact (Press.isSheetOf_of_mem_coreSheets inSheets).generatedFor _

/-- A lowered process with which nothing is wrong is compiled. -/
theorem compiled_of_undisturbed (member : u ∈ b.units config)
    (fine : b.Undisturbed config (b.compile (.ofConfig config) config).artifacts u) :
    u.definition.id ∈ (b.compile (.ofConfig config) config).compiled := by
  rw [compile_compiled]
  apply Classical.byContradiction
  intro absent
  obtain ⟨core, made⟩ := (exists_coreArtifacts_iff_calls member).2 fine.calls
  obtain ⟨taken, inCore, held, found, v, compiled, source⟩ :=
    sound_progress.rejected u member absent core made
  -- What was met is at a place of a type of the core.
  have place : (taken.path, taken.category) ∈ core.map fun a => (a.path, a.category) :=
    List.mem_map_of_mem inCore
  rw [Press.coreArtifacts_places (isModelled_of_mem_units member) made] at place
  obtain ⟨c, isClass, equal⟩ := List.mem_map.1 place
  have inOutcome : (b.compile (.ofConfig config) config).artifacts.get? (u.names.classPath c.1) =
      some held := by
    rw [(Prod.mk.inj equal).1, compile_artifacts]
    exact Progress.get?_allArtifacts_of_get? found
  -- It was generated both for this process and for a compiled one.
  have sameId := Artifact.generatedFor_unique (fine.places c isClass held inOutcome)
    source.generatedFor
  rw [sameId] at absent
  exact absent (List.mem_map_of_mem compiled)

/-- A lowered process is compiled exactly when nothing is wrong with it. -/
theorem compiled_iff_undisturbed (distinct : (b.members.map Collected.id).Nodup)
    (member : u ∈ b.units config) :
    u.definition.id ∈ (b.compile (.ofConfig config) config).compiled ↔
      b.Undisturbed config (b.compile (.ofConfig config) config).artifacts u := by
  constructor
  · intro listed
    exact undisturbed_of_compiled (compiled_of_mem_units distinct member listed)
  · exact compiled_of_undisturbed member

/-- A lowered process that is not compiled has a record that says why. -/
theorem exists_record_of_not_compiled (member : u ∈ b.units config)
    (absent : u.definition.id ∉ (b.compile (.ofConfig config) config).compiled) :
    ∃ r ∈ (b.compile (.ofConfig config) config).errors, r.processId = some u.definition.id ∧
      ((∃ node child, r.failure = .unknownSubProcess node child) ∨
        ∃ path, r.failure = .pathCollision path) := by
  have listed : some u.definition.id ∈ (b.units config).map fun v => some v.definition.id :=
    List.mem_map_of_mem member
  rw [← sound_progress.accounted.mem_iff, List.mem_append] at listed
  rcases listed with compiled | recorded
  · obtain ⟨v, inCompiled, sameId⟩ := List.mem_map.1 compiled
    rw [compile_compiled, ← Option.some.inj sameId] at absent
    exact absurd (List.mem_map_of_mem inCompiled) absent
  · obtain ⟨r, inErrors, sameId⟩ := List.mem_map.1 recorded
    refine ⟨r, ?_, sameId, sound_progress.kinds r inErrors⟩
    rw [compile_errors]
    exact List.mem_append_right _ inErrors

/-- A compiled process refers to the entry points of the processes that it calls, which were all
    lowered. -/
theorem exists_callee (compiled : caller ∈ (b.progress config).compiled) {child : String}
    (calls : child ∈ caller.definition.calls) :
    ∃ callee ∈ b.units config, callee.definition.id = child ∧
      (b.compile (.ofConfig config) config).artifacts.HoldsCall config.injection caller callee := by
  have member := mem_units_of_compiled compiled
  have lowered := isLowered_of_mem_units member
  obtain ⟨v, inUnits, named⟩ := (undisturbed_of_compiled compiled).calls child calls
  obtain ⟨names, callable⟩ :=
    Option.isSome_iff_exists.1 (isSome_callable_iff.2 ⟨v, inUnits, named⟩)
  obtain ⟨callee, isUnit, sameId, rfl⟩ := callable_get? callable
  obtain ⟨called, fields, held⟩ := held_core compiled
  have isField := (Executable.fields_ofDefinition lowered.executable child).2 calls
  refine ⟨callee, isUnit, sameId, _,
    held ((b.press config).entrySheet caller called) (by simp [Press.coreSheets]), ?_, ?_⟩
  · exact Press.mem_fieldTypes_entrySheet lowered exists_ofId_of_callable fields isField callable
  · intro explicit
    exact (Press.mem_constructed_entrySheet_iff lowered exists_ofId_of_callable fields explicit _).2
      ⟨child, callee.names, isField, callable, rfl⟩

end Batch

/-- What becomes of a call that a compiled process makes. -/
structure Output.CallOutcome (config : Config) (batch : Batch) (output : Output)
    (caller : ProcessUnit) (child : String) (callee : ProcessUnit) : Prop where
  /-- The called process was lowered. -/
  lowered : callee ∈ batch.units config
  named : callee.definition.id = child
  /-- The source of the caller names the type of the called process. -/
  written : output.artifacts.HoldsCall config.injection caller callee
  /-- The called process is compiled exactly when nothing is wrong with it. -/
  compiled_iff : child ∈ output.compiled ↔ batch.Undisturbed config output.artifacts callee
  /-- A called process that is compiled has its entry point in the set, generated for it. -/
  resolves : child ∈ output.compiled → output.artifacts.Resolves callee callee.names.processClass
  /-- A called process that is not compiled has a record of its own failure. -/
  recorded : child ∉ output.compiled → ∃ r ∈ output.errors, r.processId = some child ∧
    ((∃ node grandchild, r.failure = .unknownSubProcess node grandchild) ∨
      ∃ path, r.failure = .pathCollision path)
  /-- Nothing in the set is generated for a called process that is not compiled. -/
  dangling : child ∉ output.compiled → ∀ a ∈ output.artifacts.artifacts, ¬ a.GeneratedFor child

/-- A process that calls another. -/
def Definition.calling (id child : String) : Definition :=
  { id
    package := "p"
    nodes := [{ id := "start", kind := .start none },
      { id := "call", kind := .subProcessCall child true false }] }

/-- Two processes of which the first calls the second. -/
def callingPair : List Definition := [.calling "a" "b", .idle "b"]

end Flowsmith

import Flowsmith.Proofs.FanOut
import Mathlib.Data.List.Nodup

/-!
The stages of a compilation: what is collected, what of it can be lowered, and what the outcome is
made from.
-/

namespace Flowsmith

namespace Collected

theorem duplicateAfter?_eq_none_iff {before cs : List Collected} :
    duplicateAfter? before cs = none ↔
      (∀ c ∈ cs, ∀ b ∈ before, b.id ≠ c.id) ∧ (cs.map id).Nodup := by
  induction cs generalizing before with
  | nil => simp [duplicateAfter?]
  | cons c rest ih =>
      unfold duplicateAfter?
      cases found : before.find? (fun b => b.id == c.id) with
      | some first =>
          have inBefore := List.mem_of_find?_eq_some found
          have same : first.id = c.id := by simpa using List.find?_some found
          simp only [reduceCtorEq, false_iff]
          rintro ⟨apart, -⟩
          exact apart c List.mem_cons_self first inBefore same
      | none =>
          have fresh : ∀ b ∈ before, b.id ≠ c.id := by
            simpa using List.find?_eq_none.1 found
          simp only [ih, List.map_cons, List.nodup_cons, List.mem_cons, List.mem_append,
            List.mem_map, List.not_mem_nil, or_false]
          constructor
          · rintro ⟨apart, distinct⟩
            refine ⟨?_, ?_, distinct⟩
            · rintro d (rfl | inRest)
              · exact fresh
              · exact fun b inBefore => apart d inRest b (.inl inBefore)
            · rintro ⟨d, inRest, same⟩
              exact apart d inRest c (.inr rfl) same.symm
          · rintro ⟨apart, notAgain, distinct⟩
            refine ⟨?_, distinct⟩
            rintro d inRest b (inBefore | rfl)
            · exact apart d (.inr inRest) b inBefore
            · exact fun same => notAgain ⟨d, inRest, same.symm⟩

/-- No id is found to be shared exactly when none is. -/
theorem duplicate?_eq_none_iff {cs : List Collected} :
    duplicate? cs = none ↔ (cs.map id).Nodup := by
  rw [duplicate?, duplicateAfter?_eq_none_iff]
  simp

end Collected

namespace Batch

variable {config : Config} {b : Batch} {u : ProcessUnit}

theorem collect_eq_ok_iff {parsers : List ResourceParser} {usePlaceholder : Bool}
    {given : List Definition} {resources : List Resource} :
    collect parsers usePlaceholder given resources = .ok b ↔
      ((Gathered.ofInput parsers given resources).definitions.map Collected.id).Nodup ∧
        b = ofGathered usePlaceholder (Gathered.ofInput parsers given resources) := by
  rw [← Collected.duplicate?_eq_none_iff]
  simp only [collect]
  cases shared : Collected.duplicate? (Gathered.ofInput parsers given resources).definitions <;>
    simp [eq_comm]

/-- The definitions that pass validation. -/
def wellFormed (g : Gathered) : List Collected :=
  g.definitions.filter fun c => c.definition.validate.isOk

theorem members_ofGathered (usePlaceholder : Bool) (g : Gathered) :
    (ofGathered usePlaceholder g).members =
      if (wellFormed g).isEmpty && usePlaceholder then [.placeholder] else wellFormed g := by
  have accepted : ((g.definitions.map fun c => (c, c.definition.validate)).filter
      (fun x => x.2.isOk)).map Prod.fst = wellFormed g := by
    rw [List.filter_map, List.map_map]
    exact List.map_id _
  unfold ofGathered
  simp only [accepted]

/-- Without a placeholder the members are the well-formed definitions. -/
theorem members_ofGathered_false (g : Gathered) : (ofGathered false g).members = wellFormed g := by
  rw [members_ofGathered, Bool.and_false]
  rfl

/-- The members are the placeholder or well-formed definitions. -/
theorem mem_members_ofGathered {usePlaceholder : Bool} {g : Gathered} {c : Collected}
    (member : c ∈ (ofGathered usePlaceholder g).members) :
    c = .placeholder ∨ c ∈ g.definitions ∧ c.definition.validate.isOk = true := by
  rw [members_ofGathered] at member
  split at member
  · exact .inl (List.mem_singleton.1 member)
  · exact .inr (by simpa [wellFormed] using member)

theorem nodup_members_ofGathered {usePlaceholder : Bool} {g : Gathered}
    (distinct : (g.definitions.map Collected.id).Nodup) :
    ((ofGathered usePlaceholder g).members.map Collected.id).Nodup := by
  rw [members_ofGathered]
  split
  · simp
  · exact (List.filter_sublist.map _).nodup distinct

/-- How data models are derived. -/
def modelOptions (config : Config) : ModelOptions :=
  ⟨config.validationEnabled, config.openapiEnabled⟩

/-- The data models of the members, as far as there are any. -/
def modelled (config : Config) (b : Batch) : List (Except ErrorRecord Modelled) :=
  b.members.map (Modelled.ofCollected (modelOptions config))

/-- The members that have their data models, lowered as far as they can be. -/
def executables (lower : Lower) (config : Config) (b : Batch) : List (Except ErrorRecord Lowered) :=
  (successes (b.modelled config)).map (Lowered.ofModelled lower)

theorem lowered_eq (tools : Toolchain) (config : Config) (b : Batch) :
    b.lowered tools config = (successes (b.executables tools.lower config),
      failures (b.modelled config) ++ failures (b.executables tools.lower config)) := rfl

/-- The processes of a batch that have data models and can be lowered, with their triggers
    settled. -/
def units (config : Config) (b : Batch) : List ProcessUnit :=
  (b.lowered (.ofConfig config) config).1.map (Lowered.toUnit config.messaging)

/-- What the pages of those processes have in common. -/
def press (config : Config) (b : Batch) : Press :=
  .ofLowered (.ofConfig config) config (b.lowered (.ofConfig config) config).1

/-- What the sources of those processes come to. -/
def progress (config : Config) (b : Batch) : Progress :=
  (b.units config).foldl (Progress.add (b.press config)) {}

theorem press_engine : (b.press config).engine = .builtin := rfl

/-- A process that was lowered passed both stages. -/
theorem mem_lowered {tools : Toolchain} {l : Lowered} :
    l ∈ (b.lowered tools config).1 ↔
      ∃ c ∈ b.members, ∃ m, Modelled.ofCollected (modelOptions config) c = .ok m ∧
        Lowered.ofModelled tools.lower m = .ok l := by
  simp only [lowered_eq, executables, modelled, mem_successes, List.mem_map]
  constructor
  · rintro ⟨m, ⟨c, inMembers, modelled⟩, lowered⟩
    exact ⟨c, inMembers, m, modelled, lowered⟩
  · rintro ⟨c, inMembers, m, modelled, lowered⟩
    exact ⟨m, ⟨c, inMembers, modelled⟩, lowered⟩

end Batch

theorem DataModels.derive_eq_ok {options : ModelOptions} {d : Definition} {models : DataModels}
    (ok : derive options d = .ok models) :
    models.full.className = (Names.ofId d.id d.package).modelClass ∧
      models.input.className = (Names.ofId d.id d.package).inputModelClass ∧
      models.output.className = (Names.ofId d.id d.package).outputModelClass := by
  unfold derive DataModel.derive at ok
  cases checked : checkVariables d.declarations with
  | error e => simp [checked, bind, Except.bind] at ok
  | ok done =>
      simp only [checked, bind, Except.bind, pure, Except.pure, Except.ok.injEq] at ok
      rw [← ok]
      exact ⟨rfl, rfl, rfl⟩

/-- The fields of data models are those of variables. -/
theorem DataModels.exists_variable_of_derive {options : ModelOptions} {d : Definition}
    {models : DataModels} (ok : derive options d = .ok models) {m : DataModel}
    (member : m ∈ models.toList) : ∀ f ∈ m.fields, ∃ v, f = ModelField.ofVariable v := by
  unfold derive DataModel.derive at ok
  cases checked : checkVariables d.declarations with
  | error e => simp [checked, bind, Except.bind] at ok
  | ok done =>
      simp only [checked, bind, Except.bind, pure, Except.pure, Except.ok.injEq] at ok
      rw [← ok] at member
      intro f inFields
      simp only [toList, List.mem_cons, List.not_mem_nil, or_false] at member
      rcases member with rfl | rfl | rfl <;>
      · obtain ⟨v, -, rfl⟩ := List.mem_map.1 inFields
        exact ⟨v, rfl⟩

/-- What data models a process can have. -/
theorem Modelled.ofCollected_eq_ok {options : ModelOptions} {c : Collected} {m : Modelled}
    (ok : ofCollected options c = .ok m) :
    m.source = c ∧
      if c.definition.kind.isModelless then m.models = none
      else ∃ models, m.models = some models ∧
        DataModels.derive options c.definition = .ok models := by
  unfold ofCollected at ok
  split at ok
  · rename_i modelless
    obtain rfl := Except.ok.inj ok
    rw [if_pos modelless]
    exact ⟨rfl, rfl⟩
  · rename_i hasModels
    split at ok
    · rename_i models derived
      obtain rfl := Except.ok.inj ok
      rw [if_neg hasModels]
      exact ⟨rfl, models, rfl, derived⟩
    · exact absurd ok (by simp)

theorem Modelled.ofCollected_eq_error {options : ModelOptions} {c : Collected} {r : ErrorRecord}
    (failed : ofCollected options c = .error r) :
    ∃ e, r = .ofDefinition c.definition (.modelDerivation e) := by
  unfold ofCollected at failed
  split at failed
  · exact absurd failed (by simp)
  · split at failed
    · exact absurd failed (by simp)
    · rename_i e _
      exact ⟨e, (Except.error.inj failed).symm⟩

theorem Lowered.ofModelled_eq_ok {lower : Lower} {m : Modelled} {l : Lowered}
    (ok : ofModelled lower m = .ok l) :
    l.source = m.source ∧ l.models = m.models ∧
      Executable.ofDefinition lower m.source.definition = .ok l.executable := by
  unfold ofModelled at ok
  split at ok
  · rename_i executable lowered
    obtain rfl := Except.ok.inj ok
    exact ⟨rfl, rfl, lowered⟩
  · exact absurd ok (by simp)

theorem Lowered.ofModelled_eq_error {lower : Lower} {m : Modelled} {r : ErrorRecord}
    (failed : ofModelled lower m = .error r) :
    ∃ e, r = .ofDefinition m.source.definition (.modelGeneration e) := by
  unfold ofModelled at failed
  split at failed
  · exact absurd failed (by simp)
  · rename_i e _
    exact ⟨e, (Except.error.inj failed).symm⟩

namespace Batch

variable {config : Config} {b : Batch} {u : ProcessUnit}

theorem source_of_mem_lowered {tools : Toolchain} {l : Lowered}
    (member : l ∈ (b.lowered tools config).1) : l.source ∈ b.members := by
  obtain ⟨c, inMembers, m, modelled, lowered⟩ := mem_lowered.1 member
  have source : l.source = c :=
    (Lowered.ofModelled_eq_ok lowered).1.trans (Modelled.ofCollected_eq_ok modelled).1
  rw [source]
  exact inMembers

theorem isModelled_of_mem_lowered {tools : Toolchain} {l : Lowered} {messaging : Messaging}
    (member : l ∈ (b.lowered tools config).1) : (l.toUnit messaging).IsModelled := by
  obtain ⟨c, -, m, modelled, lowered⟩ := mem_lowered.1 member
  obtain ⟨rfl, models⟩ := Modelled.ofCollected_eq_ok modelled
  obtain ⟨source, sameModels, -⟩ := Lowered.ofModelled_eq_ok lowered
  simp only [ProcessUnit.IsModelled, ProcessUnit.names, ProcessUnit.definition, Lowered.toUnit,
    source, sameModels]
  split at models
  · rename_i modelless
    rwa [if_pos modelless]
  · rename_i hasModels
    obtain ⟨derived, isSome, ok⟩ := models
    rw [if_neg hasModels]
    exact ⟨derived, isSome, DataModels.derive_eq_ok ok⟩

theorem source_of_mem_units (member : u ∈ b.units config) : u.source ∈ b.members := by
  obtain ⟨l, inLowered, rfl⟩ := List.mem_map.1 member
  exact source_of_mem_lowered inLowered

theorem isModelled_of_mem_units (member : u ∈ b.units config) : u.IsModelled := by
  obtain ⟨l, inLowered, rfl⟩ := List.mem_map.1 member
  exact isModelled_of_mem_lowered inLowered

/-- The data models of a process are derived from its definition. -/
theorem derive_of_mem_units (member : u ∈ b.units config) {models : DataModels}
    (isSome : u.models = some models) :
    DataModels.derive (modelOptions config) u.definition = .ok models := by
  obtain ⟨l, inLowered, rfl⟩ := List.mem_map.1 member
  obtain ⟨c, -, m, modelled, lowered⟩ := mem_lowered.1 inLowered
  obtain ⟨rfl, models⟩ := Modelled.ofCollected_eq_ok modelled
  obtain ⟨source, sameModels, -⟩ := Lowered.ofModelled_eq_ok lowered
  simp only [ProcessUnit.definition, Lowered.toUnit, source, sameModels] at isSome ⊢
  split at models
  · rw [models] at isSome
    exact absurd isSome (by simp)
  · obtain ⟨derived, isDerived, ok⟩ := models
    rwa [← Option.some.inj (isDerived.symm.trans isSome)]

theorem executable_of_mem_units (member : u ∈ b.units config) :
    Executable.ofDefinition Flowsmith.lower u.definition = .ok u.executable := by
  obtain ⟨l, inLowered, rfl⟩ := List.mem_map.1 member
  obtain ⟨c, -, m, -, lowered⟩ := mem_lowered.1 inLowered
  obtain ⟨source, -, executable⟩ := Lowered.ofModelled_eq_ok lowered
  simp only [ProcessUnit.definition, Lowered.toUnit, source]
  exact executable

/-- Settling triggers changes nothing about whose processes they are. -/
theorem map_units {κ : Type} (key : Collected → κ) :
    (b.units config).map (fun u => key u.source) =
      (successes (b.executables Flowsmith.lower config)).map fun l => key l.source := by
  rw [units, List.map_map]
  rfl

/-- The lowered processes come in the order of the batch, and each is there once. -/
theorem lowered_sources_sublist (tools : Toolchain) :
    ((b.lowered tools config).1.map Lowered.source).Sublist b.members := by
  have modelled : ((successes (b.modelled config)).map Modelled.source).Sublist
      (b.members.map fun c => c) :=
    sublist_keys fun c m ok => (Modelled.ofCollected_eq_ok ok).1
  have lowered : ((successes (b.executables tools.lower config)).map Lowered.source).Sublist
      ((successes (b.modelled config)).map Modelled.source) :=
    sublist_keys fun m l ok => (Lowered.ofModelled_eq_ok ok).1
  rw [List.map_id'] at modelled
  exact lowered.trans modelled

theorem lowered_ids_sublist (tools : Toolchain) :
    ((b.lowered tools config).1.map fun l => l.source.id).Sublist (b.members.map Collected.id) := by
  have sources : ((b.lowered tools config).1.map Lowered.source).Sublist b.members :=
    lowered_sources_sublist tools
  have ids := sources.map Collected.id
  rwa [List.map_map] at ids

theorem units_ids_sublist :
    ((b.units config).map fun u => u.definition.id).Sublist (b.members.map Collected.id) := by
  change ((b.units config).map fun u => u.source.id).Sublist _
  rw [map_units]
  exact lowered_ids_sublist (.ofConfig config)

/-- Lowered processes are told apart by their ids. -/
theorem eq_of_mem_units {u v : ProcessUnit} (distinct : (b.members.map Collected.id).Nodup)
    (member : u ∈ b.units config) (other : v ∈ b.units config)
    (sameId : u.definition.id = v.definition.id) : u = v := by
  have nodup : ((b.units config).map fun u => u.definition.id).Nodup :=
    units_ids_sublist.nodup distinct
  exact List.inj_on_of_nodup_map nodup member other sameId

/-- A process can be called exactly when it is one of those that were lowered; then it goes by its
    names. -/
theorem callable_get? {child : String} {names : Names}
    (callable : (b.press config).callable.get? child = some names) :
    ∃ u ∈ b.units config, u.definition.id = child ∧ names = u.names := by
  change (callableNames (b.lowered (.ofConfig config) config).1).get? child = some names at callable
  rw [callableNames, Dict.get?_ofList] at callable
  obtain ⟨before, after, split, -⟩ := List.lookup_eq_some_iff.1 callable
  have member : (child, names) ∈ (b.lowered (.ofConfig config) config).1.map fun l =>
      (l.source.id, Names.ofId l.source.id l.source.definition.package) := by
    rw [← List.mem_reverse, split]
    simp
  obtain ⟨l, inLowered, equal⟩ := List.mem_map.1 member
  obtain ⟨rfl, rfl⟩ := Prod.mk.inj equal
  exact ⟨l.toUnit config.messaging, List.mem_map_of_mem inLowered, rfl, rfl⟩

theorem isSome_callable_iff {child : String} :
    ((b.press config).callable.get? child).isSome = true ↔
      ∃ u ∈ b.units config, u.definition.id = child := by
  constructor
  · intro isSome
    obtain ⟨names, callable⟩ := Option.isSome_iff_exists.1 isSome
    obtain ⟨u, member, sameId, -⟩ := callable_get? callable
    exact ⟨u, member, sameId⟩
  · rintro ⟨u, member, rfl⟩
    obtain ⟨l, inLowered, rfl⟩ := List.mem_map.1 member
    change ((callableNames (b.lowered (.ofConfig config) config).1).get? l.source.id).isSome = true
    rw [callableNames, Dict.get?_ofList, List.lookup_isSome_iff]
    exact ⟨_, List.mem_reverse.2 (List.mem_map_of_mem inLowered), by simp⟩

/-- The packages of members are plain: that of the placeholder is the root. -/
theorem plainPackage_of_mem_members {usePlaceholder : Bool} {g : Gathered} {c : Collected}
    (member : c ∈ (ofGathered usePlaceholder g).members) : PlainPackage c.definition.package := by
  rcases mem_members_ofGathered member with rfl | ⟨-, ok⟩
  · intro segment inSegments
    exact absurd inSegments (by decide +revert)
  · exact plainPackage_of_validate ok

/-- Qualified names lead to the files of well-formed definitions. -/
theorem plainPackage_of_mem_units {usePlaceholder : Bool} {g : Gathered}
    (member : u ∈ (ofGathered usePlaceholder g).units config) : PlainPackage u.names.package :=
  plainPackage_of_mem_members (source_of_mem_units member)

theorem sound_progress : Progress.Sound (b.press config) (b.units config) (b.progress config) :=
  Progress.sound_run press_engine fun _ => isModelled_of_mem_units

theorem compile_compiled : (b.compile (.ofConfig config) config).compiled =
    (b.progress config).compiled.map fun u => u.definition.id := rfl

theorem compile_artifacts : (b.compile (.ofConfig config) config).artifacts =
    (b.progress config).allArtifacts config.injection
      (channelFindings config.messaging (b.lowered (.ofConfig config) config).1) b.warnings := rfl

theorem compile_errors : (b.compile (.ofConfig config) config).errors =
    b.errors ++ (b.lowered (.ofConfig config) config).2 ++ (b.progress config).errors := rfl

theorem mem_units_of_compiled (compiled : u ∈ (b.progress config).compiled) : u ∈ b.units config :=
  sound_progress.order.subset compiled

/-- A lowered process whose id is listed is compiled itself. -/
theorem compiled_of_mem_units (distinct : (b.members.map Collected.id).Nodup)
    (member : u ∈ b.units config)
    (listed : u.definition.id ∈ (b.compile (.ofConfig config) config).compiled) :
    u ∈ (b.progress config).compiled := by
  rw [compile_compiled] at listed
  obtain ⟨v, compiled, sameId⟩ := List.mem_map.1 listed
  obtain rfl : v = u := eq_of_mem_units distinct (mem_units_of_compiled compiled) member sameId
  exact compiled

/-- A member whose id is listed was lowered and compiled, whatever the tools. -/
theorem exists_compiled_of_mem_members {tools : Toolchain} {c : Collected}
    (distinct : (b.members.map Collected.id).Nodup) (member : c ∈ b.members)
    (listed : c.id ∈ (b.compile tools config).compiled) :
    ∃ l ∈ (b.lowered tools config).1, l.source = c ∧
      l.toUnit config.messaging ∈
        (Progress.ofLowered tools config (b.lowered tools config).1).compiled := by
  obtain ⟨u, compiled, sameId⟩ := List.mem_map.1 listed
  obtain ⟨l, lowered, rfl⟩ := List.mem_map.1 ((Progress.compiled_sublist_run _).subset compiled)
  have source : l.source = c :=
    List.inj_on_of_nodup_map distinct (source_of_mem_lowered lowered) member sameId
  exact ⟨l, lowered, source, compiled⟩

/-- Compiled processes are told apart by their ids, whatever the tools. -/
theorem eq_of_compiled {tools : Toolchain} {u v : ProcessUnit}
    (distinct : (b.members.map Collected.id).Nodup)
    (compiled : u ∈ (Progress.ofLowered tools config (b.lowered tools config).1).compiled)
    (other : v ∈ (Progress.ofLowered tools config (b.lowered tools config).1).compiled)
    (sameId : u.definition.id = v.definition.id) : u = v := by
  obtain ⟨l, lowered, rfl⟩ := List.mem_map.1 ((Progress.compiled_sublist_run _).subset compiled)
  obtain ⟨m, lowered', rfl⟩ := List.mem_map.1 ((Progress.compiled_sublist_run _).subset other)
  have nodup : ((b.lowered tools config).1.map fun l => l.source.id).Nodup :=
    (lowered_ids_sublist tools).nodup distinct
  rw [List.inj_on_of_nodup_map nodup lowered lowered' sameId]

/-- The ids that are listed are those of members. -/
theorem compiled_subset_members {tools : Toolchain} :
    (b.compile tools config).compiled ⊆ b.members.map Collected.id := by
  intro id listed
  obtain ⟨u, compiled, rfl⟩ := List.mem_map.1 listed
  obtain ⟨l, lowered, rfl⟩ := List.mem_map.1 ((Progress.compiled_sublist_run _).subset compiled)
  exact List.mem_map_of_mem (source_of_mem_lowered lowered)

/-- The sources are at files of types, whatever the tools. -/
theorem housed_lowered {tools : Toolchain} :
    (Progress.ofLowered tools config (b.lowered tools config).1).Housed :=
  Progress.housed_ofLowered fun _ member => isModelled_of_mem_lowered member

/-- The container has an entry for each compiled process. -/
theorem compile_container {tools : Toolchain} :
    (b.compile tools config).artifacts.get? Container.path =
      some (Container.artifact tools.injection.injects
        ((Progress.ofLowered tools config (b.lowered tools config).1).compiled.map
          ProcessUnit.containerEntry)) :=
  Progress.get?_allArtifacts_container housed_lowered.held

theorem map_processId_containerEntry {tools : Toolchain} :
    ((Progress.ofLowered tools config (b.lowered tools config).1).compiled.map
      ProcessUnit.containerEntry).map ContainerEntry.processId =
        (b.compile tools config).compiled := by
  rw [List.map_map]
  rfl

/-- The compiled processes come in the order of the lowered ones. -/
theorem compiled_sublist_units : (b.compile (.ofConfig config) config).compiled.Sublist
    ((b.units config).map fun u => u.definition.id) :=
  sound_progress.order.map _

/-- What is in the outcome for a process is there only if the process is compiled. -/
theorem compiled_of_generatedFor {a : Artifact} {id : String}
    (member : a ∈ (b.compile (.ofConfig config) config).artifacts.artifacts)
    (generated : a.GeneratedFor id) : id ∈ (b.compile (.ofConfig config) config).compiled := by
  rw [compile_artifacts] at member
  have source := Progress.mem_artifacts_of_generatedFor member generated
  obtain ⟨u, compiled, isSource⟩ := sound_progress.origin a source
  rw [Artifact.generatedFor_unique generated isSource.generatedFor, compile_compiled]
  exact List.mem_map_of_mem compiled

end Batch

/-- A configuration in which failures are not fatal. -/
def Config.lenient : Config :=
  { failOnError := false, restEnabled := false }

/-- A run that gives an outcome has collected a batch. -/
theorem exists_batch_of_compile {tools : Toolchain} {config : Config} {given : List Definition}
    {resources : List Resource} {output : Output}
    (run : compile tools config given resources = .ok output) :
    ∃ batch,
      Batch.collect tools.parsers config.emitPlaceholderWhenEmpty given resources = .ok batch ∧
      output = batch.compile tools config := by
  unfold compile compileSoftly at run
  cases collected : Batch.collect tools.parsers config.emitPlaceholderWhenEmpty given resources with
  | error d => simp [collected] at run
  | ok batch =>
      simp only [collected, Output.verdict] at run
      split at run
      · exact absurd run (by simp)
      · exact ⟨batch, rfl, (Except.ok.inj run).symm⟩

/-- Where no id is shared, it is the verdict on the outcome of the batch that decides. -/
theorem compile_eq_verdict {tools : Toolchain} {config : Config} {given : List Definition}
    {resources : List Resource}
    (distinct : ((Gathered.ofInput tools.parsers given resources).definitions.map
      Collected.id).Nodup) :
    compile tools config given resources =
      ((Batch.ofGathered config.emitPlaceholderWhenEmpty
        (Gathered.ofInput tools.parsers given resources)).compile tools config).verdict config := by
  have collected : Batch.collect tools.parsers config.emitPlaceholderWhenEmpty given resources =
      .ok (.ofGathered config.emitPlaceholderWhenEmpty
        (Gathered.ofInput tools.parsers given resources)) :=
    Batch.collect_eq_ok_iff.2 ⟨distinct, rfl⟩
  unfold compile compileSoftly
  rw [collected]

/-- Where failures are not fatal, there is an outcome whenever no id is shared. -/
theorem compile_of_nodup {tools : Toolchain} {config : Config} {given : List Definition}
    {resources : List Resource} (soft : config.failOnError = false)
    (distinct : ((Gathered.ofInput tools.parsers given resources).definitions.map
      Collected.id).Nodup) :
    compile tools config given resources =
      .ok ((Batch.ofGathered config.emitPlaceholderWhenEmpty
        (Gathered.ofInput tools.parsers given resources)).compile tools config) := by
  rw [compile_eq_verdict distinct]
  simp [Output.verdict, soft]

end Flowsmith

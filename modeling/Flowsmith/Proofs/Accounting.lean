import Flowsmith.Proofs.CoreConsistency
import Flowsmith.Proofs.IndexText
import Mathlib.Data.List.Count
import Mathlib.Data.Option.Basic

/-!
Every process is accounted for. Each definition of a batch is compiled without a record, or has one
record and is not compiled; each resource that cannot be read has one record. The container and the
index list the compiled processes, in the order of the batch.
-/

namespace Flowsmith

/-- The failures that a process can have by itself, with pages that always render. -/
inductive Failure.OfProcess : Failure → Prop
  | collect (message : String) : OfProcess (.collect message)
  | modelDerivation (error : ModelError) : OfProcess (.modelDerivation error)
  | modelGeneration (error : GenerationError) : OfProcess (.modelGeneration error)
  | unknownSubProcess (node child : String) : OfProcess (.unknownSubProcess node child)
  | pathCollision (path : String) : OfProcess (.pathCollision path)

/-- The definitions that can be read from resources, in order. -/
def readDefinitions (resources : List Resource) : List Definition :=
  resources.flatMap fun r =>
    match ResourceParser.read [.json] r with
    | .ok ds => ds
    | .error _ => []

/-- One record for each resource that cannot be read, in order. -/
def unreadable (resources : List Resource) : Report :=
  resources.filterMap fun r =>
    match ResourceParser.read [.json] r with
    | .ok _ => none
    | .error e => some { resource := some r.path, failure := .collect e.message }

namespace Gathered

variable {given : List Definition} {resources : List Resource}

/-- The definitions that are collected are those that are given and those that are read. -/
theorem definitions_ofInput :
    (ofInput [.json] given resources).definitions.map Collected.definition =
      given ++ readDefinitions resources := by
  have models : (given.mapIdx Collected.ofGiven).map Collected.definition = given := by
    apply List.ext_getElem?
    intro i
    simp only [List.getElem?_map, List.getElem?_mapIdx, Option.map_map]
    exact Option.map_id'
  have read : ((resources.map (ofResource [.json])).flatMap definitions).map Collected.definition =
      readDefinitions resources := by
    induction resources with
    | nil => rfl
    | cons r rest ih =>
        rw [List.map_cons, List.flatMap_cons, List.map_append, ih, readDefinitions, readDefinitions,
          List.flatMap_cons]
        congr 1
        unfold ofResource
        cases ResourceParser.read [.json] r with
        | error e => rfl
        | ok ds =>
            change (Collected.ofResource r ds).map Collected.definition = ds
            rw [Collected.ofResource, List.map_map]
            exact List.map_id ds
  simp only [ofInput, List.map_append, models, read]

theorem ids_ofInput :
    (ofInput [.json] given resources).definitions.map Collected.id =
      (given ++ readDefinitions resources).map Definition.id := by
  rw [← definitions_ofInput, List.map_map]
  rfl

/-- Each resource that cannot be read has one record. -/
theorem errors_ofInput : (ofInput [.json] given resources).errors = unreadable resources := by
  simp only [ofInput]
  induction resources with
  | nil => rfl
  | cons r rest ih =>
      rw [List.map_cons, List.flatMap_cons, ih, unreadable, unreadable]
      unfold ofResource
      cases read : ResourceParser.read [.json] r <;> simp [read]

end Gathered

namespace Batch

/-- The records of definitions that do not pass validation. -/
def illFormed (g : Gathered) : Report :=
  (g.definitions.map fun c => (c, c.definition.validate)).filterMap validationError?

theorem errors_ofGathered (usePlaceholder : Bool) (g : Gathered) :
    (ofGathered usePlaceholder g).errors = g.errors ++ illFormed g := rfl

/-- A definition passes validation or has a record that says what is wrong with it. -/
theorem perm_validated (g : Gathered) :
    ((wellFormed g).map (fun c => some c.id) ++ (illFormed g).map ErrorRecord.processId).Perm
      (g.definitions.map fun c => some c.id) := by
  unfold wellFormed illFormed
  induction g.definitions with
  | nil => exact .refl _
  | cons c rest ih =>
      by_cases ok : c.definition.validate.isOk = true
      · simp only [List.filter_cons, List.map_cons, validationError?, List.filterMap_cons, ok,
          if_true, List.cons_append]
        exact ih.cons _
      · simp only [List.filter_cons, List.map_cons, validationError?, List.filterMap_cons, ok]
        exact List.perm_middle.trans (ih.cons _)

/-- A member is lowered or has a record that says why it is not. -/
theorem perm_lowered (config : Config) (b : Batch) :
    ((b.units config).map (fun u => some u.definition.id) ++
      (b.lowered (.ofConfig config) config).2.map ErrorRecord.processId).Perm
        (b.members.map fun c => some c.id) := by
  have modelled : ((successes (b.modelled config)).map (fun m => some m.source.id) ++
      (failures (b.modelled config)).map ErrorRecord.processId).Perm
        (b.members.map fun c => some c.id) := by
    refine perm_keys ?_ ?_
    · intro c m ok
      rw [(Modelled.ofCollected_eq_ok ok).1]
    · intro c r failed
      obtain ⟨e, rfl⟩ := Modelled.ofCollected_eq_error failed
      rfl
  have lowered : ((successes (b.executables Flowsmith.lower config)).map
      (fun l => some l.source.id) ++
      (failures (b.executables Flowsmith.lower config)).map ErrorRecord.processId).Perm
        ((successes (b.modelled config)).map fun m => some m.source.id) := by
    refine perm_keys ?_ ?_
    · intro m l ok
      rw [(Lowered.ofModelled_eq_ok ok).1]
    · intro m r failed
      obtain ⟨e, rfl⟩ := Lowered.ofModelled_eq_error failed
      rfl
  have units : (b.units config).map (fun u => some u.definition.id) =
      (successes (b.executables Flowsmith.lower config)).map fun l => some l.source.id :=
    map_units fun c => some c.id
  have records : (b.lowered (.ofConfig config) config).2 =
      failures (b.modelled config) ++ failures (b.executables Flowsmith.lower config) := rfl
  rw [units, records]
  -- The records of both stages come last, so the permutations are put together by counts.
  refine List.perm_iff_count.2 ?_
  intro key
  have first := modelled.count_eq key
  have second := lowered.count_eq key
  simp only [List.map_append, List.count_append] at first second ⊢
  omega

/-- What is collected is compiled or recorded, and nothing else is recorded than that and what
    cannot be read. -/
theorem perm_outcome (config : Config) (g : Gathered) :
    (((ofGathered false g).compile (.ofConfig config) config).compiled.map some ++
      ((ofGathered false g).compile (.ofConfig config) config).errors.map
        ErrorRecord.processId).Perm
        (g.definitions.map (fun c => some c.id) ++ g.errors.map ErrorRecord.processId) := by
  refine List.perm_iff_count.2 ?_
  intro key
  have validated := (perm_validated g).count_eq key
  have lowered := (perm_lowered config (ofGathered false g)).count_eq key
  have sound : Progress.Sound ((ofGathered false g).press config)
      ((ofGathered false g).units config) ((ofGathered false g).progress config) := sound_progress
  have compiled := sound.accounted.count_eq key
  rw [compile_compiled, compile_errors, errors_ofGathered, List.map_map]
  rw [members_ofGathered_false] at lowered
  simp only [List.map_append, List.count_append, Function.comp_def] at validated lowered compiled ⊢
  omega

/-- The records of processes, by stages. -/
def processRecords (config : Config) (g : Gathered) : Report :=
  illFormed g ++ ((ofGathered false g).lowered (.ofConfig config) config).2 ++
    ((ofGathered false g).progress config).errors

theorem errors_outcome (config : Config) (g : Gathered) :
    ((ofGathered false g).compile (.ofConfig config) config).errors =
      g.errors ++ processRecords config g := by
  rw [compile_errors, errors_ofGathered, processRecords, List.append_assoc, List.append_assoc,
    List.append_assoc]

/-- Each of them is about a process, and of a kind that processes have. -/
theorem ofProcess_of_mem_processRecords {config : Config} {g : Gathered} {r : ErrorRecord}
    (member : r ∈ processRecords config g) : r.processId.isSome = true ∧ r.failure.OfProcess := by
  simp only [processRecords, lowered_eq, List.mem_append] at member
  rcases member with (invalid | underivable | unlowered) | rejected
  · obtain ⟨⟨c, v⟩, -, found⟩ := List.mem_filterMap.1 invalid
    unfold validationError? at found
    split at found
    · exact absurd found (by simp)
    · rw [← Option.some.inj found]
      exact ⟨rfl, .collect _⟩
  · obtain ⟨c, -, failed⟩ := List.mem_map.1 (mem_failures.1 underivable)
    obtain ⟨e, rfl⟩ := Modelled.ofCollected_eq_error failed
    exact ⟨rfl, .modelDerivation e⟩
  · obtain ⟨m, -, failed⟩ := List.mem_map.1 (mem_failures.1 unlowered)
    obtain ⟨e, rfl⟩ := Lowered.ofModelled_eq_error failed
    exact ⟨rfl, .modelGeneration e⟩
  · have sound : Progress.Sound ((ofGathered false g).press config)
        ((ofGathered false g).units config) ((ofGathered false g).progress config) := sound_progress
    have listed : r.processId ∈ ((ofGathered false g).units config).map fun u =>
        some u.definition.id := by
      rw [← sound.accounted.mem_iff]
      exact List.mem_append_right _ (List.mem_map_of_mem rejected)
    obtain ⟨u, -, isOwner⟩ := List.mem_map.1 listed
    rw [← isOwner]
    refine ⟨rfl, ?_⟩
    rcases sound.kinds r rejected with ⟨node, child, kind⟩ | ⟨path, kind⟩
    · rw [kind]
      exact .unknownSubProcess node child
    · rw [kind]
      exact .pathCollision path

end Batch

theorem Report.length_forProcess (report : Report) (id : String) :
    (report.forProcess id).length = (report.map ErrorRecord.processId).count (some id) := by
  rw [List.count, List.countP_map, List.countP_eq_length_filter]
  rfl

theorem processId_of_mem_unreadable {resources : List Resource} {r : ErrorRecord}
    (member : r ∈ unreadable resources) : r.processId = none := by
  obtain ⟨resource, -, found⟩ := List.mem_filterMap.1 member
  split at found
  · exact absurd found (by simp)
  · rw [← Option.some.inj found]

/-- All that is collected is accounted for in an outcome. -/
structure Output.Accounts (config : Config) (given : List Definition) (resources : List Resource)
    (output : Output) : Prop where
  /-- A process is compiled and has no record, or is not compiled and has one. -/
  each : ∀ d ∈ given ++ readDefinitions resources,
    (d.id ∈ output.compiled ∧ Report.forProcess output.errors d.id = []) ∨
    (d.id ∉ output.compiled ∧
      ∃ r, Report.forProcess output.errors d.id = [r] ∧ r.failure.OfProcess)
  /-- The records that are about no process are those of the resources that cannot be read. -/
  unread : output.errors.filter (fun r => r.processId.isNone) = unreadable resources
  /-- The other records are about processes that were collected. -/
  others : ∀ r ∈ output.errors, ∀ id, r.processId = some id →
    id ∈ (given ++ readDefinitions resources).map Definition.id
  /-- No process is compiled twice. -/
  nodup : output.compiled.Nodup
  /-- The compiled processes come in the order of the batch. -/
  order : output.compiled.Sublist ((given ++ readDefinitions resources).map Definition.id)
  /-- The ids that the container lists, and those by which it makes entry points, are theirs. -/
  container : ∃ text,
    (∃ a, output.artifacts.get? Container.path = some a ∧ a.content = .text text) ∧
    ∀ ids : List String, (Container.listedIds text = ids.map Text.literal ↔ ids = output.compiled) ∧
      ((Container.arms text).map Prod.fst = ids.map Text.literal ↔ ids = output.compiled)
  /-- The index, as it is read, lists them. -/
  index : ∃ value entries, output.artifacts.IndexReads value ∧
    value.field? "processes" = some (.array entries) ∧
    entries.map (Json.field? "id") = output.compiled.map fun id => some (.string id)

namespace Batch

/-- The container lists the compiled processes, and makes them by their ids. -/
theorem container_lists (config : Config) (g : Gathered) :
    ∃ text, (∃ a, ((ofGathered false g).compile (.ofConfig config) config).artifacts.get?
        Container.path = some a ∧ a.content = .text text) ∧
      ∀ ids : List String, (Container.listedIds text = ids.map Text.literal ↔
          ids = ((ofGathered false g).compile (.ofConfig config) config).compiled) ∧
        ((Container.arms text).map Prod.fst = ids.map Text.literal ↔
          ids = ((ofGathered false g).compile (.ofConfig config) config).compiled) := by
  have plain : ∀ u ∈ (ofGathered false g).units config, PlainPackage u.names.package :=
    fun _ => plainPackage_of_mem_units
  obtain ⟨text, held, listed, branches, -, -⟩ := exists_holdsContainer plain
  have written : ∀ (us : List ProcessUnit) (ids : List String),
      (us.map (fun u => Text.literal u.definition.id) = ids.map Text.literal ↔
        ids = us.map fun u => u.definition.id) := by
    intro us ids
    have shown : us.map (fun u => Text.literal u.definition.id) =
        (us.map fun u => u.definition.id).map Text.literal := by
      rw [List.map_map]
      rfl
    rw [shown, (List.map_injective_iff.2 Text.literal_injective).eq_iff, eq_comm]
  refine ⟨text, held, fun ids => ⟨?_, ?_⟩⟩
  · rw [listed, written]
    rfl
  · rw [branches, List.map_map]
    exact written _ ids

theorem compiled_sublist (config : Config) (g : Gathered) :
    ((ofGathered false g).compile (.ofConfig config) config).compiled.Sublist
      (g.definitions.map Collected.id) := by
  have lowered : (((ofGathered false g).units config).map fun u => u.definition.id).Sublist
      ((ofGathered false g).members.map Collected.id) := units_ids_sublist
  rw [members_ofGathered_false] at lowered
  exact (compiled_sublist_units.trans lowered).trans (List.filter_sublist.map _)

section Once

variable {config : Config} {g : Gathered} (apart : ∀ r ∈ g.errors, r.processId = none)

include apart

/-- A process that was collected once is compiled or has a record, and not both. -/
theorem count_outcome {id : String} (distinct : (g.definitions.map Collected.id).Nodup)
    (member : id ∈ g.definitions.map Collected.id) :
    ((ofGathered false g).compile (.ofConfig config) config).compiled.count id +
      (Report.forProcess
        ((ofGathered false g).compile (.ofConfig config) config).errors id).length = 1 := by
  have counts := (perm_outcome config g).count_eq (some id)
  have once : (g.definitions.map fun c => some c.id).count (some id) = 1 := by
    have ids : (g.definitions.map fun c => some c.id) =
        (g.definitions.map Collected.id).map some := by
      rw [List.map_map]
      rfl
    rw [ids, List.count_map_of_injective _ _ (Option.some_injective _)]
    exact List.count_eq_one_of_mem distinct member
  have unread : (g.errors.map ErrorRecord.processId).count (some id) = 0 := by
    refine List.count_eq_zero.2 ?_
    intro listed
    obtain ⟨r, inErrors, isOwner⟩ := List.mem_map.1 listed
    rw [apart r inErrors] at isOwner
    exact absurd isOwner (by simp)
  rw [List.count_append, List.count_append, once, unread,
    List.count_map_of_injective _ _ (Option.some_injective _)] at counts
  rw [Report.length_forProcess]
  exact counts

theorem compiled_or_recorded {id : String} (distinct : (g.definitions.map Collected.id).Nodup)
    (member : id ∈ g.definitions.map Collected.id) :
    (id ∈ ((ofGathered false g).compile (.ofConfig config) config).compiled ∧
      Report.forProcess ((ofGathered false g).compile (.ofConfig config) config).errors id = []) ∨
    (id ∉ ((ofGathered false g).compile (.ofConfig config) config).compiled ∧
      ∃ r,
        Report.forProcess ((ofGathered false g).compile (.ofConfig config) config).errors id = [r] ∧
        r.failure.OfProcess) := by
  have counts :
      ((ofGathered false g).compile (.ofConfig config) config).compiled.count id + _ = 1 :=
    count_outcome apart distinct member
  by_cases compiled : id ∈ ((ofGathered false g).compile (.ofConfig config) config).compiled
  · have once := List.count_pos_iff.2 compiled
    exact .inl ⟨compiled, List.length_eq_zero_iff.1 (by omega)⟩
  · have never := List.count_eq_zero.2 compiled
    rw [never, Nat.zero_add] at counts
    obtain ⟨r, records⟩ := List.length_eq_one_iff.1 counts
    have inRecords := List.mem_singleton_self r
    rw [← records] at inRecords
    obtain ⟨inErrors, isFor⟩ := List.mem_filter.1 inRecords
    have owner : r.processId = some id := by simpa [ErrorRecord.isFor] using isFor
    refine .inr ⟨compiled, r, records, ?_⟩
    rw [errors_outcome, List.mem_append] at inErrors
    rcases inErrors with gathered | ofProcess
    · rw [apart r gathered] at owner
      exact absurd owner (by simp)
    · exact (ofProcess_of_mem_processRecords ofProcess).2

/-- The records that are about no process are those of the resources. -/
theorem filter_errors_outcome :
    ((ofGathered false g).compile (.ofConfig config) config).errors.filter
      (fun r => r.processId.isNone) = g.errors := by
  have kept : g.errors.filter (fun r => r.processId.isNone) = g.errors := by
    refine List.filter_eq_self.2 ?_
    intro r member
    rw [apart r member]
    rfl
  have left : (processRecords config g).filter (fun r => r.processId.isNone) = [] := by
    refine List.filter_eq_nil_iff.2 ?_
    intro r member
    obtain ⟨id, owner⟩ := Option.isSome_iff_exists.1 (ofProcess_of_mem_processRecords member).1
    rw [owner]
    simp
  rw [errors_outcome, List.filter_append, kept, left, List.append_nil]

/-- The other records are about processes that were collected. -/
theorem mem_ids_of_mem_errors {r : ErrorRecord} {id : String}
    (member : r ∈ ((ofGathered false g).compile (.ofConfig config) config).errors)
    (owner : r.processId = some id) : id ∈ g.definitions.map Collected.id := by
  have listed : some id ∈ g.definitions.map (fun c => some c.id) ++
      g.errors.map ErrorRecord.processId := by
    rw [← (perm_outcome config g).mem_iff, ← owner]
    exact List.mem_append_right _ (List.mem_map_of_mem member)
  rcases List.mem_append.1 listed with collected | unread
  · obtain ⟨c, inDefinitions, sameId⟩ := List.mem_map.1 collected
    rw [← Option.some.inj sameId]
    exact List.mem_map_of_mem inDefinitions
  · obtain ⟨other, gathered, sameId⟩ := List.mem_map.1 unread
    rw [apart other gathered] at sameId
    exact absurd sameId (by simp)

end Once

end Batch

/-- Where failures are not fatal and no placeholder is used, there is an outcome whenever no id is
    shared. -/
theorem compile_of_distinct {config : Config} {given : List Definition} {resources : List Resource}
    (soft : config.failOnError = false) (noPlaceholder : config.emitPlaceholderWhenEmpty = false)
    (distinct : ((given ++ readDefinitions resources).map Definition.id).Nodup) :
    compile (.ofConfig config) config given resources =
      .ok ((Batch.ofGathered false (Gathered.ofInput [.json] given resources)).compile
        (.ofConfig config) config) := by
  rw [← Gathered.ids_ofInput] at distinct
  have run : compile (.ofConfig config) config given resources = .ok _ :=
    compile_of_nodup soft distinct
  rw [noPlaceholder] at run
  exact run

/-- A process that can be compiled, and one that has no start. -/
def startedAndNot : List Definition :=
  [{ id := "a", nodes := [{ id := "s", kind := .start none }] }, { id := "b" }]

end Flowsmith

import Flowsmith.Proofs.Stages

/-!
Labels of given definitions. A definition that comes from no resource is labelled by its place among
those that are given. The label is for messages about shared ids only: nothing of an outcome depends
on it.
-/

namespace Flowsmith

/-- What was collected, without a label that stands for a resource. -/
def Collected.unlabelled (c : Collected) : Collected :=
  { c with origin := if c.contents.isSome then c.origin else "" }

/-- A process with its data models, without a label. -/
def Modelled.unlabelled (m : Modelled) : Modelled :=
  { m with source := m.source.unlabelled }

/-- A lowered process, without a label. -/
def Lowered.unlabelled (l : Lowered) : Lowered :=
  { l with source := l.source.unlabelled }

/-- A unit, without a label. -/
def ProcessUnit.unlabelled (u : ProcessUnit) : ProcessUnit :=
  { u with source := u.source.unlabelled }

/-- What was gathered, without labels. -/
def Gathered.unlabelled (g : Gathered) : Gathered :=
  { g with definitions := g.definitions.map Collected.unlabelled }

/-- What the sources of processes have come to, without labels. -/
def Progress.unlabelled (p : Progress) : Progress :=
  { p with compiled := p.compiled.map ProcessUnit.unlabelled }

section Relabelling

variable {α β ε : Type} {f : α → Except ε β} {g : α → α} {h : β → β}

/-- A step that keeps a relabelling succeeds with relabelled results. -/
theorem successes_map_map (keeps : ∀ x, f (g x) = (f x).map h) (xs : List α) :
    successes ((xs.map g).map f) = (successes (xs.map f)).map h := by
  induction xs with
  | nil => rfl
  | cons x rest ih =>
      simp only [List.map_cons, keeps]
      cases f x with
      | ok b => rw [Except.map, successes_ok, successes_ok, List.map_cons, ih]
      | error e => rw [Except.map, successes_error, successes_error, ih]

/-- A step that keeps a relabelling fails with the same errors. -/
theorem failures_map_map (keeps : ∀ x, f (g x) = (f x).map h) (xs : List α) :
    failures ((xs.map g).map f) = failures (xs.map f) := by
  induction xs with
  | nil => rfl
  | cons x rest ih =>
      simp only [List.map_cons, keeps]
      cases f x with
      | ok b => rw [Except.map, failures_ok, failures_ok, ih]
      | error e => rw [Except.map, failures_error, failures_error, ih]

end Relabelling

@[simp] theorem Collected.definition_unlabelled (c : Collected) :
    c.unlabelled.definition = c.definition := rfl

theorem Modelled.ofCollected_unlabelled (options : ModelOptions) (c : Collected) :
    ofCollected options c.unlabelled = (ofCollected options c).map unlabelled := by
  unfold ofCollected
  rw [Collected.definition_unlabelled]
  split
  · rfl
  · cases DataModels.derive options c.definition <;> rfl

theorem Lowered.ofModelled_unlabelled (lower : Lower) (m : Modelled) :
    ofModelled lower m.unlabelled = (ofModelled lower m).map unlabelled := by
  have same : m.unlabelled.source.definition = m.source.definition := rfl
  unfold ofModelled
  rw [same]
  cases Executable.ofDefinition lower m.source.definition <;> rfl

namespace Press

variable (press : Press) (u : ProcessUnit)

theorem coreArtifacts_unlabelled : press.coreArtifacts u.unlabelled = press.coreArtifacts u := rfl

theorem optionalArtifacts_unlabelled :
    press.optionalArtifacts u.unlabelled = press.optionalArtifacts u := rfl

end Press

namespace Progress

variable {press : Press}

theorem add_unlabelled (p : Progress) (u : ProcessUnit) :
    p.unlabelled.add press u.unlabelled = (p.add press u).unlabelled := by
  unfold add
  rw [Press.coreArtifacts_unlabelled]
  cases press.coreArtifacts u with
  | error failure => rfl
  | ok core =>
      simp only
      unfold accept
      rw [Press.optionalArtifacts_unlabelled]
      have artifacts : p.unlabelled.artifacts = p.artifacts := rfl
      rw [artifacts]
      cases core.find? (fun a => p.artifacts.contains a.path) with
      | some taken => rfl
      | none =>
          have definition : u.unlabelled.definition = u.definition := rfl
          simp only [definition, unlabelled, List.map_append, List.map_cons, List.map_nil]

theorem run_unlabelled (units : List ProcessUnit) (p : Progress) :
    (units.map ProcessUnit.unlabelled).foldl (add press) p.unlabelled =
      (units.foldl (add press) p).unlabelled := by
  induction units generalizing p with
  | nil => rfl
  | cons u rest ih =>
      rw [List.map_cons, List.foldl_cons, List.foldl_cons, add_unlabelled]
      exact ih (p.add press u)

theorem ofLowered_unlabelled (tools : Toolchain) (config : Config) (lowered : List Lowered) :
    ofLowered tools config (lowered.map Lowered.unlabelled) =
      (ofLowered tools config lowered).unlabelled := by
  have callable : callableNames (lowered.map Lowered.unlabelled) = callableNames lowered := by
    unfold callableNames
    rw [List.map_map]
    rfl
  have sameUnits : (lowered.map Lowered.unlabelled).map (Lowered.toUnit config.messaging) =
      (lowered.map (Lowered.toUnit config.messaging)).map ProcessUnit.unlabelled := by
    rw [List.map_map, List.map_map]
    rfl
  unfold ofLowered Press.ofLowered
  rw [callable, sameUnits]
  exact run_unlabelled _ {}

/-- A copy is made of the resource itself, which has no label. -/
theorem copy?_unlabelled (u : ProcessUnit) : u.unlabelled.copy? = u.copy? := by
  unfold ProcessUnit.copy?
  cases isRead : u.source.contents with
  | none => simp [ProcessUnit.unlabelled, Collected.unlabelled, isRead]
  | some contents =>
      simp [ProcessUnit.unlabelled, Collected.unlabelled, ProcessUnit.definition, isRead]

theorem allArtifacts_unlabelled (p : Progress) (injection : Injection)
    (channel : List ChannelWarning) (validation : List (String × ValidationWarning)) :
    p.unlabelled.allArtifacts injection channel validation =
      p.allArtifacts injection channel validation := by
  have entries : p.unlabelled.compiled.map ProcessUnit.containerEntry =
      p.compiled.map ProcessUnit.containerEntry := by
    unfold unlabelled
    rw [List.map_map]
    rfl
  have sameSources : p.unlabelled.sources injection = p.sources injection := by
    unfold sources container
    rw [entries]
    rfl
  have sameIndex : p.unlabelled.index injection channel validation =
      p.index injection channel validation := by
    unfold index
    rw [sameSources]
    unfold unlabelled
    rw [List.map_map]
    rfl
  have sameCopies : p.unlabelled.copies = p.copies := by
    have each : ProcessUnit.copy? ∘ ProcessUnit.unlabelled = ProcessUnit.copy? :=
      funext copy?_unlabelled
    unfold copies unlabelled
    rw [List.filterMap_map, each]
  unfold allArtifacts
  rw [sameSources, sameIndex, sameCopies]

end Progress

theorem channelFindings_unlabelled (messaging : Messaging) (lowered : List Lowered) :
    channelFindings messaging (lowered.map Lowered.unlabelled) =
      channelFindings messaging lowered := by
  unfold channelFindings
  rw [List.flatMap_map]
  rfl

/-- The outcome of lowered processes, with the failures and warnings that came before. -/
def Output.ofLowered (tools : Toolchain) (config : Config) (lowered : List Lowered)
    (before : Report) (warnings : List (String × ValidationWarning)) : Output :=
  { artifacts := (Progress.ofLowered tools config lowered).allArtifacts tools.injection
      (channelFindings config.messaging lowered) warnings
    errors := before ++ (Progress.ofLowered tools config lowered).errors
    channelWarnings := channelFindings config.messaging lowered
    validationWarnings := warnings
    compiled := (Progress.ofLowered tools config lowered).compiled.map fun u => u.definition.id
    missing := (lowered.map (Lowered.missing config.messaging)).filter (fun ts => !ts.isEmpty) }

theorem Output.ofLowered_unlabelled (tools : Toolchain) (config : Config) (lowered : List Lowered)
    (before : Report) (warnings : List (String × ValidationWarning)) :
    ofLowered tools config (lowered.map Lowered.unlabelled) before warnings =
      ofLowered tools config lowered before warnings := by
  have missing : (lowered.map Lowered.unlabelled).map (Lowered.missing config.messaging) =
      lowered.map (Lowered.missing config.messaging) := by
    rw [List.map_map]
    rfl
  have compiled (p : Progress) : p.unlabelled.compiled.map (fun u => u.definition.id) =
      p.compiled.map fun u => u.definition.id := by
    unfold Progress.unlabelled
    rw [List.map_map]
    rfl
  unfold ofLowered
  rw [Progress.ofLowered_unlabelled, channelFindings_unlabelled, Progress.allArtifacts_unlabelled,
    missing, compiled]
  rfl

namespace Batch

theorem compile_eq_ofLowered (tools : Toolchain) (config : Config) (b : Batch) :
    b.compile tools config = .ofLowered tools config (b.lowered tools config).1
      (b.errors ++ (b.lowered tools config).2) b.warnings := rfl

theorem lowered_unlabelled (tools : Toolchain) (config : Config) (b : Batch) :
    ({ b with members := b.members.map Collected.unlabelled } : Batch).lowered tools config =
      ((b.lowered tools config).1.map Lowered.unlabelled, (b.lowered tools config).2) := by
  have modelled := Modelled.ofCollected_unlabelled (modelOptions config)
  have lowered := Lowered.ofModelled_unlabelled tools.lower
  simp only [lowered_eq, executables, Batch.modelled]
  rw [successes_map_map modelled, failures_map_map modelled, successes_map_map lowered,
    failures_map_map lowered]

theorem wellFormed_unlabelled (g : Gathered) :
    wellFormed g.unlabelled = (wellFormed g).map Collected.unlabelled := by
  unfold wellFormed Gathered.unlabelled
  rw [List.filter_map]
  rfl

theorem errors_ofGathered_unlabelled (usePlaceholder : Bool) (g : Gathered) :
    (ofGathered usePlaceholder g.unlabelled).errors = (ofGathered usePlaceholder g).errors := by
  simp only [ofGathered, Gathered.unlabelled, List.map_map, List.filterMap_map]
  rfl

theorem warnings_ofGathered_unlabelled (usePlaceholder : Bool) (g : Gathered) :
    (ofGathered usePlaceholder g.unlabelled).warnings = (ofGathered usePlaceholder g).warnings := by
  simp only [ofGathered, Gathered.unlabelled, List.map_map, List.flatMap_map]
  rfl

/-- The members are the placeholder both times, or the same without labels. -/
theorem members_ofGathered_unlabelled (usePlaceholder : Bool) (g : Gathered) :
    (ofGathered usePlaceholder g.unlabelled).members = (ofGathered usePlaceholder g).members ∨
      (ofGathered usePlaceholder g.unlabelled).members =
        (ofGathered usePlaceholder g).members.map Collected.unlabelled := by
  rw [members_ofGathered, members_ofGathered, wellFormed_unlabelled, List.isEmpty_map]
  split
  · exact .inl rfl
  · exact .inr rfl

/-- Nothing of an outcome depends on labels. -/
theorem compile_unlabelled (tools : Toolchain) (config : Config) {usePlaceholder : Bool}
    (g : Gathered) :
    (ofGathered usePlaceholder g.unlabelled).compile tools config =
      (ofGathered usePlaceholder g).compile tools config := by
  have whole : ofGathered usePlaceholder g.unlabelled =
      { ofGathered usePlaceholder g with
        members := (ofGathered usePlaceholder g.unlabelled).members } := by
    change _ = Batch.mk _ (ofGathered usePlaceholder g).errors
      (ofGathered usePlaceholder g).warnings
    rw [← errors_ofGathered_unlabelled, ← warnings_ofGathered_unlabelled]
  rcases members_ofGathered_unlabelled usePlaceholder g with same | unlabelled
  · rw [whole, same]
  · rw [whole, unlabelled, compile_eq_ofLowered, compile_eq_ofLowered, lowered_unlabelled]
    exact Output.ofLowered_unlabelled _ _ _ _ _

end Batch

/-- A definition that is given, without a label. -/
def Collected.bare (d : Definition) : Collected :=
  { definition := d, origin := "", contents := none }

/-- What is read from a resource has no label. -/
theorem Collected.unlabelled_of_mem_ofResource {parsers : List ResourceParser} {r : Resource}
    {c : Collected}
    (member : c ∈ (Gathered.ofResource parsers r).definitions) : c.unlabelled = c := by
  unfold Gathered.ofResource at member
  split at member
  · obtain ⟨d, -, rfl⟩ := List.mem_map.1 member
    rfl
  · exact absurd member (List.not_mem_nil)

namespace Gathered

theorem unlabelled_ofInput (parsers : List ResourceParser) (given : List Definition)
    (resources : List Resource) :
    (ofInput parsers given resources).unlabelled.definitions =
      given.map Collected.bare ++ (resources.map (ofResource parsers)).flatMap definitions := by
  have models : (given.mapIdx Collected.ofGiven).map Collected.unlabelled =
      given.map Collected.bare := by
    apply List.ext_getElem?
    intro i
    simp only [List.getElem?_map, List.getElem?_mapIdx, Option.map_map]
    rfl
  have read : ((resources.map (ofResource parsers)).flatMap definitions).map Collected.unlabelled =
      (resources.map (ofResource parsers)).flatMap definitions := by
    refine (List.map_congr_left ?_).trans (List.map_id _)
    intro c member
    obtain ⟨_, inGathered, inDefinitions⟩ := List.mem_flatMap.1 member
    obtain ⟨r, -, rfl⟩ := List.mem_map.1 inGathered
    exact Collected.unlabelled_of_mem_ofResource inDefinitions
  simp only [unlabelled, ofInput, List.map_append, models, read]

end Gathered

end Flowsmith

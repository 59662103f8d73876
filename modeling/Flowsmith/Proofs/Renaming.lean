import Flowsmith.Proofs.CoreConsistency
import Flowsmith.Proofs.DisplayNames
import Flowsmith.Proofs.Labels
import Flowsmith.Proofs.Outcomes

/-!
Runs with another name for one process. They end the same way and tell the same. What they generate
is at the same places and has the same code, but for what the two names spill into the types of the
process.
-/

namespace Flowsmith

section Stages

variable (rename : String → Option String → Option String)

/-- A process with its data models, renamed. -/
def Modelled.renamed (m : Modelled) : Modelled :=
  { m with source := m.source.renamed rename }

/-- A lowered process, renamed. -/
def Lowered.renamed (l : Lowered) : Lowered :=
  { l with source := l.source.renamed rename }

theorem Modelled.ofCollected_renamed (options : ModelOptions) (c : Collected) :
    ofCollected options (c.renamed rename) = (ofCollected options c).map (renamed rename) := by
  have same : DataModels.derive options (c.renamed rename).definition =
      DataModels.derive options c.definition := rfl
  unfold ofCollected
  rw [same]
  change (if c.definition.kind.isModelless then _ else _) = _
  split
  · rfl
  · cases DataModels.derive options c.definition <;> rfl

theorem Lowered.ofModelled_renamed (m : Modelled) :
    ofModelled Flowsmith.lower (m.renamed rename) =
      (ofModelled Flowsmith.lower m).map (renamed rename) := by
  have same : Executable.ofDefinition Flowsmith.lower (m.renamed rename).source.definition =
      Executable.ofDefinition Flowsmith.lower m.source.definition := rfl
  unfold ofModelled
  rw [same]
  cases Executable.ofDefinition Flowsmith.lower m.source.definition <;> rfl

end Stages

/-- Artifacts of the same place and category, with the same code unless the first is excused. -/
structure Artifact.Alike (excused : Artifact → Prop) (a b : Artifact) : Prop where
  path : b.path = a.path
  category : b.category = a.category
  code : excused a ∨ b.content.code = a.content.code

namespace Artifact.Alike

variable {excused : Artifact → Prop} {a b : Artifact}

theorem refl (a : Artifact) : Alike excused a a := ⟨rfl, rfl, .inr rfl⟩

theorem place (alike : Alike excused a b) : b.path = a.path ∧ b.category = a.category :=
  ⟨alike.path, alike.category⟩

end Artifact.Alike

/-- A definition spills what it did, or else all that is generated for it is excused. -/
def Collected.Keeps (rename : String → Option String → Option String) (excused : Artifact → Prop)
    (c : Collected) : Prop :=
  (∀ a : Artifact, a.GeneratedFor c.id → excused a) ∨
  (c.renamed rename).definition.spill = c.definition.spill

section Fan

variable {rename : String → Option String → Option String} {excused : Artifact → Prop}
    {u : ProcessUnit}
  (kept : u.source.Keeps rename excused)

include kept

/-- The core of a renamed process is like that of the process. -/
theorem Press.alike_core (press : Press) (called : List HostField) :
    List.Forall₂ (Artifact.Alike excused) ((press.coreSheets u called).map (Sheet.artifact u.names))
      ((press.coreSheets (u.renamed rename) called).map
        (Sheet.artifact (u.renamed rename).names)) := by
  have entry : Artifact.Alike excused ((press.entrySheet u called).artifact u.names)
      ((press.entrySheet (u.renamed rename) called).artifact (u.renamed rename).names) := by
    refine ⟨rfl, rfl, ?_⟩
    rcases kept with generated | spills
    · exact .inl (generated _ ((isSheetOf_entrySheet called).generatedFor _))
    · exact .inr ((press.code_entrySheet_renamed_iff rename u called).2 spills)
  -- Nothing else of the core is documented with the name.
  have models : modelSheets (u.renamed rename) = modelSheets u := rfl
  have inst : instanceSheet (u.renamed rename) = instanceSheet u := rfl
  have names : (u.renamed rename).names = u.names := rfl
  rw [coreSheets, coreSheets, models, inst, names, List.map_append, List.map_append]
  refine List.rel_append (List.forall₂_same.2 fun a _ => .refl a) ?_
  exact .cons entry (.cons (.refl _) .nil)

/-- What a renamed process has beyond its core is like what the process has there. -/
theorem Press.alike_optional (press : Press) :
    List.Forall₂ (Artifact.Alike excused) ((press.optionalSheets u).map (Sheet.artifact u.names))
      ((press.optionalSheets (u.renamed rename)).map
        (Sheet.artifact (u.renamed rename).names)) := by
  have rest : List.Forall₂ (Artifact.Alike excused)
      ((press.restSheets u).map (Sheet.artifact u.names))
      ((press.restSheets (u.renamed rename)).map (Sheet.artifact (u.renamed rename).names)) := by
    have exposes : press.exposesRest (u.renamed rename) = press.exposesRest u := rfl
    unfold restSheets
    rw [exposes]
    split
    · rename_i exposed
      refine .cons ⟨rfl, rfl, ?_⟩ .nil
      rcases kept with generated | spills
      · have isSheet : IsSheetOf u ⟨u.names.resourceClass, .rest, .rest (press.restPage u)⟩ :=
          isSheetOf_restSheet
        exact .inl (generated _ (isSheet.generatedFor _))
      · exact .inr ((press.code_restSheet_renamed_iff rename u).2 spills)
    · exact .nil
  simp only [optionalSheets, List.append_assoc, List.map_append]
  refine List.rel_append rest ?_
  exact List.forall₂_same.2 fun a _ => .refl a

end Fan

/-- What two lists of processes, the one renamed, have come to. -/
structure Progress.Alike (rename : String → Option String → Option String)
    (excused : Artifact → Prop) (p q : Progress) : Prop where
  artifacts : p.artifacts.Related (Artifact.Alike excused) q.artifacts
  errors : q.errors = p.errors
  compiled : q.compiled = p.compiled.map (ProcessUnit.renamed rename)

namespace Progress

variable {rename : String → Option String → Option String} {excused : Artifact → Prop}
    {press : Press}
  {p q : Progress}

theorem Alike.fail (alike : p.Alike rename excused q) (u : ProcessUnit) (failure : Failure) :
    (p.fail u failure).Alike rename excused (q.fail (u.renamed rename) failure) := by
  refine ⟨alike.artifacts, ?_, alike.compiled⟩
  change q.errors ++ _ = p.errors ++ _
  rw [alike.errors]
  rfl

theorem Alike.add (builtin : press.engine = .builtin) (alike : p.Alike rename excused q)
    {u : ProcessUnit} (kept : u.source.Keeps rename excused) :
    (p.add press u).Alike rename excused (q.add press (u.renamed rename)) := by
  unfold Progress.add
  rw [Press.coreArtifacts_builtin builtin, Press.coreArtifacts_builtin builtin,
    Press.calledFields_renamed]
  cases press.calledFields u with
  | error failure => exact alike.fail u failure
  | ok called =>
      simp only [Except.map]
      have core := Press.alike_core kept press called
      have optional := Press.alike_optional kept press
      have met := ArtifactSet.rel_find?
        (fun {_ _} both => alike.artifacts.contains Artifact.Alike.place both) core
      unfold accept
      generalize ((press.coreSheets u called).map (Sheet.artifact u.names)).find? _ = first at met ⊢
      generalize ((press.coreSheets (u.renamed rename) called).map
        (Sheet.artifact (u.renamed rename).names)).find? _ = second at met ⊢
      cases met with
      | some taken =>
          simp only [taken.path]
          exact alike.fail u _
      | none =>
          rw [Press.optionalArtifacts_builtin builtin, Press.optionalArtifacts_builtin builtin]
          simp only [successes_map_ok, failures_map_ok, List.map_nil, List.append_nil]
          refine ⟨?_, alike.errors, ?_⟩
          · exact alike.artifacts.registerAll Artifact.Alike.place (List.rel_append core optional)
          · simp only [alike.compiled, List.map_append, List.map_cons, List.map_nil]

/-- What the sources of processes come to is like what those of the renamed ones do. -/
theorem alike_run (builtin : press.engine = .builtin) {units : List ProcessUnit}
    (kept : ∀ u ∈ units, u.source.Keeps rename excused)
    (alike : p.Alike rename excused q) :
    (units.foldl (add press) p).Alike rename excused
      ((units.map (ProcessUnit.renamed rename)).foldl (add press) q) := by
  induction units generalizing p q with
  | nil => exact alike
  | cons u rest ih =>
      rw [List.forall_mem_cons] at kept
      rw [List.map_cons, List.foldl_cons, List.foldl_cons]
      exact ih kept.2 (alike.add builtin kept.1)

/-- The container and the copies are the same for both; the index may have another fingerprint. -/
theorem Alike.allArtifacts (alike : p.Alike rename excused q)
    (index : ∀ i : Index, excused i.artifact)
    (injection : Injection) (channel : List ChannelWarning)
    (validation : List (String × ValidationWarning)) :
    (p.allArtifacts injection channel validation).Related (Artifact.Alike excused)
      (q.allArtifacts injection channel validation) := by
  have container : q.container injection = p.container injection := by
    unfold Progress.container
    rw [alike.compiled, List.map_map]
    rfl
  have copies : q.copies = p.copies := by
    unfold Progress.copies
    rw [alike.compiled, List.filterMap_map]
    rfl
  have sources : (p.sources injection).Related (Artifact.Alike excused) (q.sources injection) := by
    unfold Progress.sources
    rw [container]
    exact alike.artifacts.register Artifact.Alike.place (.refl _)
  have indexes (i j : Index) : Artifact.Alike excused i.artifact j.artifact :=
    ⟨rfl, rfl, .inl (index i)⟩
  unfold Progress.allArtifacts
  rw [copies]
  exact (sources.register Artifact.Alike.place (indexes _ _)).registerAll Artifact.Alike.place
    (List.forall₂_same.2 fun a _ => .refl a)

end Progress

/-- Two outcomes that tell the same, and whose artifacts are alike. -/
structure Output.Alike (excused : Artifact → Prop) (first second : Output) : Prop where
  artifacts : first.artifacts.Related (Artifact.Alike excused) second.artifacts
  errors : second.errors = first.errors
  channelWarnings : second.channelWarnings = first.channelWarnings
  validationWarnings : second.validationWarnings = first.validationWarnings
  compiled : second.compiled = first.compiled
  missing : second.missing = first.missing

/-- Sets of artifacts with the same code at every path but that of the index. -/
def ArtifactSet.SameCode (s t : ArtifactSet) : Prop :=
  ∀ path, path.same Index.path = false →
    (t.get? path).map (fun a => a.content.code) = (s.get? path).map fun a => a.content.code

section Outcome

variable {rename : String → Option String → Option String} {excused : Artifact → Prop}
    {config : Config}

/-- An outcome is like itself. -/
theorem Output.Alike.refl (o : Output) : o.Alike excused o :=
  ⟨⟨List.forall₂_same.2 fun a _ => .refl a, rfl⟩, rfl, rfl, rfl, rfl, rfl⟩

theorem Output.Alike.mono {first second : Output} {wider : Artifact → Prop}
    (alike : first.Alike excused second)
    (widens : ∀ a, excused a → wider a) : first.Alike wider second := by
  refine { alike with artifacts := ⟨alike.artifacts.artifacts.imp ?_, alike.artifacts.dropped⟩ }
  rintro a b ⟨path, category, code⟩
  exact ⟨path, category, code.imp_left (widens a)⟩

/-- Outcomes that are alike have the same code, if nothing but the index is excused. -/
theorem Output.Alike.sameCode {first second : Output} (alike : first.Alike excused second)
    (indexOnly : ∀ a ∈ first.artifacts.artifacts, excused a → a.path = Index.path) :
    first.artifacts.SameCode second.artifacts := by
  intro path notIndex
  have both := alike.artifacts.get? Artifact.Alike.place path
  cases inFirst : first.artifacts.get? path with
  | none =>
      rw [inFirst] at both
      cases inSecond : second.artifacts.get? path with
      | none => rfl
      | some b =>
          rw [inSecond] at both
          cases both
  | some a =>
      rw [inFirst] at both
      cases inSecond : second.artifacts.get? path with
      | none =>
          rw [inSecond] at both
          cases both
      | some b =>
          rw [inSecond] at both
          obtain ⟨-, -, isExcused | code⟩ := Option.rel_some_some.1 both
          · have place := indexOnly a (ArtifactSet.mem_of_get? inFirst) isExcused
            have met := List.find?_some inFirst
            simp only [place] at met
            rw [Path.same_symm met] at notIndex
            exact absurd notIndex (by simp)
          · exact congrArg some code

/-- A batch whose members are renamed. -/
def Batch.renamed (rename : String → Option String → Option String) (b : Batch) : Batch :=
  { b with members := b.members.map (Collected.renamed rename) }

/-- What was gathered, renamed. -/
def Gathered.renamed (rename : String → Option String → Option String) (g : Gathered) : Gathered :=
  { g with definitions := g.definitions.map (Collected.renamed rename) }

namespace Batch

variable {b : Batch} {g : Gathered} {usePlaceholder : Bool} {u : ProcessUnit}

theorem lowered_renamed : (b.renamed rename).lowered (.ofConfig config) config =
    ((b.lowered (.ofConfig config) config).1.map (Lowered.renamed rename),
      (b.lowered (.ofConfig config) config).2) := by
  have modelled := Modelled.ofCollected_renamed rename (modelOptions config)
  have lowered := Lowered.ofModelled_renamed rename
  have lower : (Toolchain.ofConfig config).lower = Flowsmith.lower := rfl
  simp only [lowered_eq, executables, Batch.modelled, renamed, lower]
  rw [successes_map_map modelled, failures_map_map modelled, successes_map_map lowered,
    failures_map_map lowered]

theorem units_renamed :
    (b.renamed rename).units config = (b.units config).map (ProcessUnit.renamed rename) := by
  unfold units
  rw [lowered_renamed, List.map_map, List.map_map]
  rfl

theorem press_renamed : (b.renamed rename).press config = b.press config := by
  unfold press Press.ofLowered callableNames
  rw [lowered_renamed, List.map_map]
  rfl

theorem alike_progress (kept : ∀ u ∈ b.units config, u.source.Keeps rename excused) :
    (b.progress config).Alike rename excused ((b.renamed rename).progress config) := by
  unfold progress
  rw [press_renamed, units_renamed]
  exact Progress.alike_run press_engine kept ⟨⟨.nil, rfl⟩, rfl, rfl⟩

/-- The outcome of a renamed batch is like that of the batch. -/
theorem alike_compile (index : ∀ i : Index, excused i.artifact)
    (kept : ∀ c ∈ b.members, c.Keeps rename excused) :
    (b.compile (.ofConfig config) config).Alike excused
      ((b.renamed rename).compile (.ofConfig config) config) := by
  have progress : (b.progress config).Alike rename excused ((b.renamed rename).progress config) :=
    alike_progress fun u member => kept _ (source_of_mem_units member)
  have findings : channelFindings config.messaging
      ((b.renamed rename).lowered (.ofConfig config) config).1 =
      channelFindings config.messaging (b.lowered (.ofConfig config) config).1 := by
    unfold channelFindings
    rw [lowered_renamed, List.flatMap_map]
    rfl
  constructor
  · rw [compile_artifacts, compile_artifacts, findings]
    exact progress.allArtifacts index _ _ _
  · rw [compile_errors, compile_errors, lowered_renamed, progress.errors]
    rfl
  · exact findings
  · rfl
  · rw [compile_compiled, compile_compiled, progress.compiled, List.map_map]
    rfl
  · simp only [compile, lowered_renamed, List.map_map]
    rfl

theorem wellFormed_renamed :
    wellFormed (g.renamed rename) = (wellFormed g).map (Collected.renamed rename) := by
  unfold wellFormed Gathered.renamed
  rw [List.filter_map]
  rfl

/-- What is found while definitions are collected does not depend on names. -/
theorem ofGathered_renamed_eq_iff {b : Batch} : ofGathered usePlaceholder (g.renamed rename) = b ↔
    (ofGathered usePlaceholder (g.renamed rename)).members = b.members ∧
      (ofGathered usePlaceholder g).errors = b.errors ∧
      (ofGathered usePlaceholder g).warnings = b.warnings := by
  have errors : (ofGathered usePlaceholder (g.renamed rename)).errors =
      (ofGathered usePlaceholder g).errors := by
    simp only [ofGathered, Gathered.renamed, List.map_map, List.filterMap_map]
    rfl
  have warnings : (ofGathered usePlaceholder (g.renamed rename)).warnings =
      (ofGathered usePlaceholder g).warnings := by
    simp only [ofGathered, Gathered.renamed, List.map_map, List.flatMap_map]
    rfl
  rw [← errors, ← warnings]
  exact Iff.of_eq (Batch.mk.injEq ..)

theorem ofGathered_renamed_of_eq_nil (none : wellFormed g = []) :
    ofGathered usePlaceholder (g.renamed rename) = ofGathered usePlaceholder g := by
  refine ofGathered_renamed_eq_iff.2 ⟨?_, rfl, rfl⟩
  rw [members_ofGathered, members_ofGathered, wellFormed_renamed, none, List.map_nil]

theorem members_ofGathered_of_ne_nil (some : wellFormed g ≠ []) :
    (ofGathered usePlaceholder g).members = wellFormed g := by
  rw [members_ofGathered, List.isEmpty_eq_false_iff.2 some]
  rfl

theorem ofGathered_renamed_of_ne_nil (some : wellFormed g ≠ []) :
    ofGathered usePlaceholder (g.renamed rename) =
      (ofGathered usePlaceholder g).renamed rename := by
  have others : wellFormed (g.renamed rename) ≠ [] := by
    rw [wellFormed_renamed]
    simpa using some
  refine ofGathered_renamed_eq_iff.2 ⟨?_, rfl, rfl⟩
  rw [members_ofGathered_of_ne_nil others, wellFormed_renamed, Batch.renamed,
    members_ofGathered_of_ne_nil some]

/-- The outcome of renamed definitions is like that of the definitions. The placeholder keeps its
    name. -/
theorem alike_ofGathered (index : ∀ i : Index, excused i.artifact)
    (kept : ∀ c ∈ wellFormed g, c.Keeps rename excused) :
    ((ofGathered usePlaceholder g).compile (.ofConfig config) config).Alike excused
      ((ofGathered usePlaceholder (g.renamed rename)).compile (.ofConfig config) config) := by
  by_cases none : wellFormed g = []
  · rw [ofGathered_renamed_of_eq_nil none]
    exact .refl _
  · rw [ofGathered_renamed_of_ne_nil none]
    apply alike_compile index
    rw [members_ofGathered_of_ne_nil none]
    exact kept

/-- A compiled process that keeps the code of its entry point spills what it did before. -/
theorem spill_renamed_of_sameCode (compiled : u ∈ (b.progress config).compiled)
    (same : (b.compile (.ofConfig config) config).artifacts.SameCode
      ((b.renamed rename).compile (.ofConfig config) config).artifacts) :
    (u.renamed rename).definition.spill = u.definition.spill := by
  have alike : (b.progress config).Alike rename (fun _ => True)
      ((b.renamed rename).progress config) :=
    alike_progress fun _ _ => .inl fun _ _ => trivial
  have compiledToo : u.renamed rename ∈ ((b.renamed rename).progress config).compiled := by
    rw [alike.compiled]
    exact List.mem_map_of_mem compiled
  -- Both entry points are made of the same collaborators and stand at the same place.
  obtain ⟨called, fields, held⟩ := held_core compiled
  obtain ⟨called', fields', held'⟩ := held_core compiledToo
  rw [press_renamed] at fields' held'
  rw [Press.calledFields_renamed, fields] at fields'
  obtain rfl := Except.ok.inj fields'
  have first : (b.compile (.ofConfig config) config).artifacts.get?
      (u.names.classPath u.names.processClass) =
        some (((b.press config).entrySheet u called).artifact u.names) :=
    held ((b.press config).entrySheet u called) (by simp [Press.coreSheets])
  have second : ((b.renamed rename).compile (.ofConfig config) config).artifacts.get?
      (u.names.classPath u.names.processClass) =
        some (((b.press config).entrySheet (u.renamed rename) called).artifact
          (u.renamed rename).names) :=
    held' ((b.press config).entrySheet (u.renamed rename) called) (by simp [Press.coreSheets])
  have codes := same _ (Names.classPath_not_index u.names u.names.processClass)
  rw [first, second] at codes
  exact (Press.code_entrySheet_renamed_iff rename (b.press config) u called).1
    (Option.some.inj codes)

end Batch

end Outcome

/-- The verdict depends on the failures only. -/
theorem Output.verdict_of_errors_eq (config : Config) {first second : Output}
    (errors : second.errors = first.errors) :
    (∃ e, first.verdict config = .error e ∧ second.verdict config = .error e) ∨
      first.verdict config = .ok first ∧ second.verdict config = .ok second := by
  unfold verdict
  rw [errors]
  split
  · exact .inl ⟨_, rfl, rfl⟩
  · exact .inr ⟨rfl, rfl⟩

/-- A new name for the process of one id. -/
def renameOnly (id : String) (name : Option String) (key : String) (old : Option String) :
    Option String :=
  if key = id then name else old

theorem Collected.renamed_renameOnly_of_ne {c : Collected} {id : String} (other : c.id ≠ id)
    (name : Option String) : c.renamed (renameOnly id name) = c := by
  have old : renameOnly id name c.definition.id c.definition.name =
      c.definition.name := if_neg other
  rw [Collected.renamed, old]
  rfl

theorem Collected.renamed_ofGiven (index : Nat) (d : Definition) (name name' : Option String) :
    (ofGiven index (d.renamed name)).renamed (renameOnly d.id name') =
      ofGiven index (d.renamed name') := by
  have new : renameOnly d.id name' d.id name = name' := if_pos rfl
  change ({ ofGiven index (d.renamed name') with
    definition := (d.renamed name).renamed (renameOnly d.id name' d.id name) } : Collected) = _
  rw [new]
  rfl

namespace Gathered

variable {parsers : List ResourceParser} {before after : List Definition}
    {resources : List Resource}
  {d : Definition} {name : Option String}

/-- What is gathered around a definition does not depend on its name. -/
theorem exists_definitions_ofInput (parsers : List ResourceParser) (before after : List Definition)
    (resources : List Resource) (d : Definition) : ∃ front back, ∀ name,
      (ofInput parsers (before ++ d.renamed name :: after) resources).definitions =
        front ++ Collected.ofGiven before.length (d.renamed name) :: back := by
  refine ⟨before.mapIdx Collected.ofGiven,
    after.mapIdx (fun i => Collected.ofGiven (i + 1 + before.length)) ++
      (resources.map (ofResource parsers)).flatMap definitions, ?_⟩
  intro name
  simp [ofInput, List.mapIdx_append, List.mapIdx_cons]

theorem mem_ofInput (parsers : List ResourceParser) (before after : List Definition)
    (resources : List Resource) (d : Definition) (name : Option String) :
    Collected.ofGiven before.length (d.renamed name) ∈
      (ofInput parsers (before ++ d.renamed name :: after) resources).definitions := by
  obtain ⟨front, back, split⟩ := exists_definitions_ofInput parsers before after resources d
  rw [split]
  exact List.mem_append_right _ List.mem_cons_self

/-- Where no id is shared, another name is given to the definition alone. -/
theorem renamed_ofInput (name' : Option String)
    (distinct : ((ofInput parsers (before ++ d.renamed name :: after) resources).definitions.map
      Collected.id).Nodup) :
    (ofInput parsers (before ++ d.renamed name :: after) resources).renamed
        (renameOnly d.id name') =
      ofInput parsers (before ++ d.renamed name' :: after) resources := by
  obtain ⟨front, back, split⟩ := exists_definitions_ofInput parsers before after resources d
  have definitions : (ofInput parsers (before ++ d.renamed name :: after) resources).definitions.map
      (Collected.renamed (renameOnly d.id name')) =
        (ofInput parsers (before ++ d.renamed name' :: after) resources).definitions := by
    rw [split, List.map_append, List.map_cons, List.nodup_append] at distinct
    obtain ⟨-, tail, apart⟩ := distinct
    have inFront : ∀ c ∈ front, c.renamed (renameOnly d.id name') = c := fun c member =>
      c.renamed_renameOnly_of_ne (apart _ (List.mem_map_of_mem member) _ List.mem_cons_self) name'
    have inBack : ∀ c ∈ back, c.renamed (renameOnly d.id name') = c := by
      intro c member
      refine c.renamed_renameOnly_of_ne ?_ name'
      intro same
      have listed : c.id ∈ back.map Collected.id := List.mem_map_of_mem member
      rw [same] at listed
      exact (List.nodup_cons.1 tail).1 listed
    rw [split, split, List.map_append, List.map_cons, List.map_congr_left inFront,
      List.map_congr_left inBack, Collected.renamed_ofGiven, List.map_id', List.map_id']
  exact congrArg (Gathered.mk · _) definitions

/-- Ids and origins do not depend on names. -/
theorem map_occurrence_renamed (parsers : List ResourceParser) (before after : List Definition)
    (resources : List Resource) (d : Definition) (name name' : Option String) :
    (ofInput parsers (before ++ d.renamed name' :: after) resources).definitions.map
        Collected.occurrence =
      (ofInput parsers (before ++ d.renamed name :: after) resources).definitions.map
        Collected.occurrence := by
  obtain ⟨front, back, split⟩ := exists_definitions_ofInput parsers before after resources d
  rw [split, split, List.map_append, List.map_append, List.map_cons, List.map_cons]
  rfl

end Gathered

namespace Batch

variable (config : Config) (usePlaceholder : Bool) {g : Gathered} {c : Collected}

/-- Another name for one process changes no code but that of its own types, and this only by what is
    spilled. -/
theorem alike_renameOnly (name : Option String) (distinct : (g.definitions.map Collected.id).Nodup)
    (member : c ∈ g.definitions) :
    ((ofGathered usePlaceholder g).compile (.ofConfig config) config).Alike
      (fun a => a.path = Index.path ∨
        ((c.renamed (renameOnly c.id name)).definition.spill ≠ c.definition.spill ∧
          c.definition.validate.isOk = true) ∧ a.GeneratedFor c.id)
      ((ofGathered usePlaceholder (g.renamed (renameOnly c.id name))).compile
        (.ofConfig config) config) := by
  refine alike_ofGathered (fun _ => .inl rfl) ?_
  intro x inWellFormed
  obtain ⟨inDefinitions, valid⟩ := List.mem_filter.1 inWellFormed
  by_cases same : x.id = c.id
  · obtain rfl : x = c := List.inj_on_of_nodup_map distinct inDefinitions member same
    by_cases spills : (x.renamed (renameOnly x.id name)).definition.spill = x.definition.spill
    · exact .inr spills
    · exact .inl fun a generated => .inr ⟨⟨spills, valid⟩, generated⟩
  · refine .inr ?_
    rw [x.renamed_renameOnly_of_ne same]

/-- The code is the same exactly when the same is spilled, or when there is no code of the
    process. -/
theorem sameCode_renameOnly_iff (name : Option String)
    (distinct : (g.definitions.map Collected.id).Nodup) (member : c ∈ g.definitions) :
    ((ofGathered usePlaceholder g).compile (.ofConfig config) config).artifacts.SameCode
        ((ofGathered usePlaceholder (g.renamed (renameOnly c.id name))).compile
          (.ofConfig config) config).artifacts ↔
      (c.renamed (renameOnly c.id name)).definition.spill = c.definition.spill ∨
        ¬ (c.definition.validate.isOk = true ∧
          c.id ∈ ((ofGathered usePlaceholder g).compile (.ofConfig config) config).compiled) := by
  constructor
  · intro same
    rw [or_iff_not_imp_right, not_not]
    rintro ⟨valid, listed⟩
    have inWellFormed : c ∈ wellFormed g := List.mem_filter.2 ⟨member, valid⟩
    -- A well-formed definition keeps the placeholder out, so the members are the renamed ones.
    have some := List.ne_nil_of_mem inWellFormed
    rw [ofGathered_renamed_of_ne_nil some] at same
    rw [← members_ofGathered_of_ne_nil some] at inWellFormed
    obtain ⟨l, -, rfl, compiled⟩ :=
      exists_compiled_of_mem_members (nodup_members_ofGathered distinct) inWellFormed listed
    have inProgress : l.toUnit config.messaging ∈
        ((ofGathered usePlaceholder g).progress config).compiled :=
      compiled
    have kept := spill_renamed_of_sameCode inProgress same
    exact kept
  · intro unchanged
    refine (alike_renameOnly config usePlaceholder name distinct member).sameCode ?_
    rintro a inSet (isIndex | ⟨⟨spills, valid⟩, generated⟩)
    · exact isIndex
    · exact absurd ⟨valid, compiled_of_generatedFor inSet generated⟩ (unchanged.resolve_left spills)

end Batch

section Runs

variable (config : Config) (before after : List Definition) (resources : List Resource)
    (d : Definition)

/-- What is gathered when a definition, among others, has the given name. -/
def Gathered.naming (name : Option String) : Gathered :=
  ofInput [.json] (before ++ d.renamed name :: after) resources

/-- The outcome of the batch in which it has the given name. -/
def Output.naming (name : Option String) : Output :=
  (Batch.ofGathered config.emitPlaceholderWhenEmpty (.naming before after resources d name)).compile
    (.ofConfig config) config

variable {before after resources d} {name : Option String}
  (distinct : ((Gathered.naming before after resources d name).definitions.map Collected.id).Nodup)

include distinct

/-- Without a shared id, a run is the verdict on that outcome. -/
theorem compile_eq_verdict_naming :
    compile (.ofConfig config) config (before ++ d.renamed name :: after) resources =
      (Output.naming config before after resources d name).verdict config :=
  compile_eq_verdict distinct

theorem Output.alike_naming (name' : Option String) :
    (naming config before after resources d name).Alike
    (fun a => a.path = Index.path ∨ a.GeneratedFor d.id)
    (naming config before after resources d name') := by
  have alike := Batch.alike_renameOnly config config.emitPlaceholderWhenEmpty name' distinct
    (Gathered.mem_ofInput [.json] before after resources d name)
  have sameId : (Collected.ofGiven before.length (d.renamed name)).id = d.id := rfl
  rw [sameId, Gathered.naming, Gathered.renamed_ofInput name' distinct] at alike
  exact alike.mono fun _ => Or.imp_right And.right

theorem Output.sameCode_naming_iff (name' : Option String) :
    (naming config before after resources d name).artifacts.SameCode
        (naming config before after resources d name').artifacts ↔
      (d.renamed name').spill = (d.renamed name).spill ∨
        ¬ (d.validate.isOk = true ∧
          d.id ∈ (naming config before after resources d name).compiled) := by
  have code := Batch.sameCode_renameOnly_iff config config.emitPlaceholderWhenEmpty name' distinct
    (Gathered.mem_ofInput [.json] before after resources d name)
  have sameId : (Collected.ofGiven before.length (d.renamed name)).id = d.id := rfl
  rw [sameId, Gathered.naming, Gathered.renamed_ofInput name' distinct,
    Collected.renamed_ofGiven] at code
  exact code

end Runs

/-- Two runs that differ in the name of one process end the same way. Their outcomes tell the same,
    and have the same code but for the types of the process; there it is the same exactly when both
    names leave the same code below the line of documentation that they stand in. -/
theorem code_of_renamed (config : Config) (before after : List Definition)
    (resources : List Resource) (d : Definition) (name name' : Option String) :
    (∃ e,
      compile (.ofConfig config) config (before ++ d.renamed name :: after) resources = .error e ∧
      compile (.ofConfig config) config (before ++ d.renamed name' :: after) resources = .error e) ∨
    ∃ first second,
      compile (.ofConfig config) config (before ++ d.renamed name :: after) resources = .ok first ∧
      compile (.ofConfig config) config (before ++ d.renamed name' :: after) resources =
        .ok second ∧
      first.Alike (fun a => a.path = Index.path ∨ a.GeneratedFor d.id) second ∧
      (first.artifacts.SameCode second.artifacts ↔
        (d.renamed name').spill = (d.renamed name).spill ∨
          ¬ (d.validate.isOk = true ∧ d.id ∈ first.compiled)) := by
  have reported := Collected.duplicate?_congr
    (Gathered.map_occurrence_renamed [.json] before after resources d name name')
  cases shared : Collected.duplicate?
    (Gathered.naming before after resources d name).definitions with
  | some e =>
      left
      exact ⟨.duplicateId e, compile_eq_duplicateId_iff.2 shared,
        compile_eq_duplicateId_iff.2 (reported.trans shared)⟩
  | none =>
      have distinct := Collected.duplicate?_eq_none_iff.1 shared
      have distinctToo := Collected.duplicate?_eq_none_iff.1 (reported.trans shared)
      have alike := Output.alike_naming config distinct name'
      rw [compile_eq_verdict_naming config distinct, compile_eq_verdict_naming config distinctToo]
      rcases Output.verdict_of_errors_eq config alike.errors with fails | ⟨one, other⟩
      · exact .inl fails
      · exact .inr ⟨_, _, one, other, alike, Output.sameCode_naming_iff config distinct name'⟩

/-- A name that ends its line of documentation and goes on with an item of its own. -/
def itemName : String :=
  "x`.\nfn injected() \x7b\x7d\n// `"

/-- The item is code of the one outcome and not of the other. -/
theorem code_of_renamed_item : ∃ first second,
    compile (.ofConfig .lenient) .lenient [(Definition.idle "a").renamed (some itemName)] [] =
        .ok first ∧
      compile (.ofConfig .lenient) .lenient [(Definition.idle "a").renamed (some "x")] [] =
        .ok second ∧
      ¬ first.artifacts.SameCode second.artifacts := by
  have distinct (name : Option String) :
      ((Gathered.naming [] [] [] (.idle "a") name).definitions.map Collected.id).Nodup :=
    List.nodup_singleton _
  refine ⟨_, _, compile_of_nodup rfl (distinct _), compile_of_nodup rfl (distinct _), ?_⟩
  have compiled : "a" ∈ (Output.naming .lenient [] [] [] (.idle "a") (some itemName)).compiled := by
    decide +kernel
  have oneLine : ((Definition.idle "a").renamed (some "x")).spill = [] :=
    Definition.spill_eq_nil (by decide)
  have spills : ((Definition.idle "a").renamed (some itemName)).spill ≠ [] := by decide
  have code := Output.sameCode_naming_iff .lenient (distinct (some itemName)) (some "x")
  intro same
  rcases code.1 same with equal | missing
  · exact spills (equal.symm.trans oneLine)
  · exact missing ⟨by decide, compiled⟩

end Flowsmith

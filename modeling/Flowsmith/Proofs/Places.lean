import Flowsmith.Batch.Compile
import Flowsmith.Proofs.Registration
import Flowsmith.Proofs.Sheets

/-!
Sources under any engine. A page may render to any text or fail, but what comes of it is at the file
of a type of its process, and what fails is a page or a call. So the container and the index are
never in the way.
-/

namespace Flowsmith

/-- The file of a type that is generated for some process. -/
def Path.IsClassFile (p : Path) : Prop :=
  ∃ (n : Names) (className : String), n.IsClass className ∧ p = n.classPath className

theorem Path.IsClassFile.not_container {p : Path} (file : p.IsClassFile) :
    p.same Container.path = false := by
  obtain ⟨n, className, owned, place⟩ := file
  rw [place]
  exact Names.classPath_not_container owned

theorem Path.IsClassFile.not_index {p : Path} (file : p.IsClassFile) :
    p.same Index.path = false := by
  obtain ⟨n, className, -, place⟩ := file
  rw [place]
  exact Names.classPath_not_index n className

namespace Press

variable {press : Press} {u : ProcessUnit}

section Artifact

variable {names : Names} {className : String} {category : Category} {page : Page}

theorem artifact_eq_ok {a : Artifact} :
    press.artifact names className category page = .ok a ↔
      ∃ text, press.engine page = .ok text ∧
        a = { path := names.classPath className, content := .text text, category } := by
  unfold artifact
  cases press.engine page <;> simp [eq_comm]

theorem path_of_artifact {a : Artifact}
    (made : press.artifact names className category page = .ok a) :
    a.path = names.classPath className := by
  obtain ⟨text, -, rfl⟩ := artifact_eq_ok.1 made
  simp only

theorem category_of_artifact {a : Artifact}
    (made : press.artifact names className category page = .ok a) : a.category = category := by
  obtain ⟨text, -, rfl⟩ := artifact_eq_ok.1 made
  simp only

theorem artifact_eq_error {failure : Failure} :
    press.artifact names className category page = .error failure ↔
      ∃ e, press.engine page = .error e ∧ failure = .templating className e := by
  unfold artifact
  cases press.engine page <;> simp [eq_comm]

end Artifact

/-- A core is what its parts are. -/
theorem produces_of_mem_core {core : List Artifact} {a : Artifact}
    (made : press.coreArtifacts u = .ok core) (member : a ∈ core) : press.Produces u a := by
  unfold coreArtifacts at made
  obtain ⟨models, modelsMade, made⟩ := bind_eq_ok.1 made
  obtain ⟨entry, entryMade, made⟩ := bind_eq_ok.1 made
  obtain ⟨running, runningMade, made⟩ := bind_eq_ok.1 made
  rw [← Except.ok.inj made] at member
  simp only [List.mem_append, List.mem_cons, List.not_mem_nil, or_false] at member
  rcases member with inModels | rfl | rfl
  · exact .model modelsMade inModels
  · exact .entry entryMade
  · exact .runningInstance runningMade

theorem modelArtifacts_places {models : List Artifact}
    (made : press.modelArtifacts u = .ok models) :
    models.map (fun a => (a.path, a.category)) =
      (modelSheets u).map fun s => (u.names.classPath s.className, s.category) := by
  unfold modelArtifacts at made
  unfold modelSheets
  cases derived : u.models with
  | none =>
      rw [derived] at made
      rw [← Except.ok.inj made]
      rfl
  | some dataModels =>
      rw [derived] at made
      rw [List.map_map]
      refine map_of_mapM ?_ made
      intro m a one
      rw [path_of_artifact one, category_of_artifact one]
      rfl

/-- The places and categories of a core are those of its types. -/
theorem coreArtifacts_places {core : List Artifact} (modelled : u.IsModelled)
    (made : press.coreArtifacts u = .ok core) :
    core.map (fun a => (a.path, a.category)) =
      u.coreClasses.map fun c => (u.names.classPath c.1, c.2) := by
  unfold coreArtifacts entryArtifact at made
  obtain ⟨models, modelsMade, made⟩ := bind_eq_ok.1 made
  obtain ⟨entry, entryMade, made⟩ := bind_eq_ok.1 made
  obtain ⟨called, -, entryMade⟩ := bind_eq_ok.1 entryMade
  obtain ⟨running, runningMade, made⟩ := bind_eq_ok.1 made
  have classes : (press.coreSheets u called).map (fun s => (s.className, s.category)) =
      u.coreClasses := coreSheets_classes modelled called
  rw [← Except.ok.inj made, ← classes, List.map_map, coreSheets, List.map_append, List.map_append,
    modelArtifacts_places modelsMade]
  simp only [List.map_cons, List.map_nil, path_of_artifact entryMade,
    category_of_artifact entryMade, path_of_artifact runningMade, category_of_artifact runningMade]
  rfl

/-- The artifacts of a core are at places apart from one another. -/
theorem pairwise_core {core : List Artifact} (modelled : u.IsModelled)
    (made : press.coreArtifacts u = .ok core) :
    core.Pairwise fun a b => a.path.same b.path = false := by
  have apart : (core.map fun a => (a.path, a.category)).Pairwise
      fun p q => p.1.same q.1 = false := by
    rw [coreArtifacts_places modelled made]
    simp only [List.pairwise_map]
    exact ProcessUnit.pairwise_coreClasses u
  rwa [List.pairwise_map] at apart

theorem mem_optionalArtifacts {r : Except Failure Artifact} :
    r ∈ press.optionalArtifacts u ↔
      (press.exposesRest u = true ∧
        r = press.artifact u.names u.names.resourceClass .rest (.rest (press.restPage u))) ∨
      (∃ t ∈ u.distinctTriggers .consume, r = press.consumerArtifact u t) ∨
      ∃ t ∈ u.distinctTriggers .produce, r = press.producerArtifact u t := by
  unfold optionalArtifacts restArtifacts
  split <;> simp [*, eq_comm]

/-- What is made for a process is at the file of one of its types. -/
theorem Produces.exists_class {a : Artifact} (modelled : u.IsModelled)
    (produced : press.Produces u a) :
    ∃ className, u.names.IsClass className ∧ a.path = u.names.classPath className := by
  cases produced with
  | @model models made member =>
      unfold modelArtifacts at made
      unfold ProcessUnit.IsModelled at modelled
      split at made
      · rw [← Except.ok.inj made] at member
        exact absurd member (List.not_mem_nil)
      · rename_i derived isSome
        obtain ⟨m, inModels, one⟩ := exists_of_mem_mapM made member
        refine ⟨m.className, .fixed ?_, path_of_artifact one⟩
        split at modelled
        · rw [isSome] at modelled
          exact absurd modelled (by simp)
        · obtain ⟨models, same, full, input, output⟩ := modelled
          obtain rfl : models = derived := Option.some.inj (same.symm.trans isSome)
          simp only [DataModels.toList, List.mem_cons, List.not_mem_nil, or_false] at inModels
          rcases inModels with rfl | rfl | rfl
          · simp [full, Names.fixedClasses]
          · simp [input, Names.fixedClasses]
          · simp [output, Names.fixedClasses]
  | entry made =>
      unfold entryArtifact at made
      obtain ⟨called, -, one⟩ := bind_eq_ok.1 made
      exact ⟨u.names.processClass, .fixed (by simp [Names.fixedClasses]), path_of_artifact one⟩
  | runningInstance made =>
      exact ⟨u.names.instanceClass, .fixed (by simp [Names.fixedClasses]), path_of_artifact made⟩
  | optional made =>
      rcases mem_optionalArtifacts.1 made with ⟨-, one⟩ | ⟨t, -, one⟩ | ⟨t, -, one⟩
      · exact ⟨u.names.resourceClass, .fixed (by simp [Names.fixedClasses]),
          path_of_artifact one.symm⟩
      · exact ⟨u.names.consumerClass t.name, .consumer t.name, path_of_artifact one.symm⟩
      · exact ⟨u.names.producerClass t.name, .producer t.name, path_of_artifact one.symm⟩

theorem Produces.isClassFile {a : Artifact} (modelled : u.IsModelled)
    (produced : press.Produces u a) : a.path.IsClassFile :=
  ⟨u.names, produced.exists_class modelled⟩

/-- Fields are missing only for a process that cannot be called. -/
theorem unknown_of_calledFields_error {failure : Failure}
    (unmade : press.calledFields u = .error failure) :
    ∃ node child, failure = .unknownSubProcess node child := by
  obtain ⟨⟨child, name⟩, -, failed⟩ := exists_of_mapM_eq_error unmade
  unfold subProcessField at failed
  cases callable : press.callable.get? child with
  | some names => simp [callable] at failed
  | none => exact ⟨_, child, by simpa [callable, eq_comm] using failed⟩

/-- A core is not made because of a page or of a call. -/
theorem failure_of_coreArtifacts {failure : Failure}
    (unmade : press.coreArtifacts u = .error failure) :
    (∃ node child, failure = .unknownSubProcess node child) ∨
      ∃ className e, failure = .templating className e := by
  unfold coreArtifacts at unmade
  rcases bind_eq_error.1 unmade with models | ⟨_, _, unmade⟩
  · unfold modelArtifacts at models
    split at models
    · exact absurd models (by simp)
    · obtain ⟨m, -, one⟩ := exists_of_mapM_eq_error models
      obtain ⟨e, -, rfl⟩ := artifact_eq_error.1 one
      exact .inr ⟨m.className, e, rfl⟩
  rcases bind_eq_error.1 unmade with entry | ⟨_, _, unmade⟩
  · unfold entryArtifact at entry
    rcases bind_eq_error.1 entry with fields | ⟨called, -, one⟩
    · exact .inl (unknown_of_calledFields_error fields)
    · obtain ⟨e, -, rfl⟩ := artifact_eq_error.1 one
      exact .inr ⟨u.names.processClass, e, rfl⟩
  rcases bind_eq_error.1 unmade with running | ⟨_, _, never⟩
  · obtain ⟨e, -, rfl⟩ := artifact_eq_error.1 running
    exact .inr ⟨u.names.instanceClass, e, rfl⟩
  · exact absurd never (by simp [pure, Except.pure])

/-- Beyond the core nothing fails but pages. -/
theorem failure_of_optionalArtifacts {failure : Failure}
    (failed : .error failure ∈ press.optionalArtifacts u) :
    ∃ className e, failure = .templating className e := by
  rcases mem_optionalArtifacts.1 failed with ⟨-, one⟩ | ⟨t, -, one⟩ | ⟨t, -, one⟩
  all_goals
    obtain ⟨e, -, rfl⟩ := artifact_eq_error.1 one.symm
    exact ⟨_, e, rfl⟩

end Press

namespace Progress

/-- What the sources of a process can come to: its core is not made, its core meets what is there,
    or all of its sources are added, as far as their pages render. -/
inductive Addition (press : Press) (p : Progress) (u : ProcessUnit) : Progress → Prop
  | unmade {failure : Failure} (cause : press.coreArtifacts u = .error failure) :
      Addition press p u (p.fail u failure)
  | collided {core : List Artifact} {taken : Artifact} (made : press.coreArtifacts u = .ok core)
      (member : taken ∈ core) (met : p.artifacts.contains taken.path = true) :
      Addition press p u (p.fail u (.pathCollision taken.path.text))
  | accepted {core : List Artifact} (made : press.coreArtifacts u = .ok core)
      (free : ∀ a ∈ core, p.artifacts.get? a.path = none) :
      Addition press p u
        { artifacts := p.artifacts.registerAll (core ++ successes (press.optionalArtifacts u))
          errors := p.errors ++
            (failures (press.optionalArtifacts u)).map (ErrorRecord.ofDefinition u.definition)
          compiled := p.compiled ++ [u] }

variable {press : Press} {p q : Progress} {u : ProcessUnit}

theorem addition_add (p : Progress) (u : ProcessUnit) : Addition press p u (p.add press u) := by
  unfold add
  split
  · rename_i failure cause
    exact .unmade cause
  · rename_i core made
    unfold accept
    split
    · rename_i taken found
      exact .collided made (List.mem_of_find?_eq_some found) (by simpa using List.find?_some found)
    · rename_i notFound
      have free : ∀ a ∈ core, p.artifacts.get? a.path = none := by
        intro a member
        have apart := List.find?_eq_none.1 notFound a member
        exact ArtifactSet.contains_eq_false_iff.1 (by simpa using apart)
      exact .accepted made free

/-- What holds at the beginning and is kept by each addition holds at the end. -/
theorem fold_induction {motive : List ProcessUnit → Progress → Prop} (units : List ProcessUnit)
    (start : motive [] {})
    (step : ∀ done p u q, u ∈ units → motive done p → Addition press p u q →
      motive (done ++ [u]) q) :
    motive units (units.foldl (add press) {}) := by
  -- The induction is on what is left; what is done is a part of the whole, so each step is at a
  -- member.
  have run : ∀ (rest done : List ProcessUnit) (p : Progress), done ++ rest = units → motive done p →
      motive units (rest.foldl (add press) p) := by
    intro rest
    induction rest with
    | nil =>
        intro done p whole held
        rw [List.append_nil] at whole
        exact whole ▸ held
    | cons u rest ih =>
        intro done p whole held
        have member : u ∈ units := by
          rw [← whole]
          simp
        exact ih (done ++ [u]) (p.add press u) (by rw [← whole]; simp)
          (step done p u _ member held (addition_add p u))
  exact run units [] {} rfl start

/-- The compiled processes are some of those that were added, in their order. -/
theorem compiled_sublist_run (units : List ProcessUnit) :
    (units.foldl (add press) {}).compiled.Sublist units := by
  refine fold_induction (motive := fun done p => p.compiled.Sublist done) units (.refl _) ?_
  intro done p u q _ order addition
  cases addition with
  | unmade cause => exact order.trans (List.sublist_append_left _ _)
  | collided made member met => exact order.trans (List.sublist_append_left _ _)
  | accepted made free => exact order.append (.refl _)

/-- What there is was made for one of the processes that were added. -/
theorem exists_produces_of_mem_run {units : List ProcessUnit} :
    ∀ a ∈ (units.foldl (add press) {}).artifacts.artifacts, ∃ u ∈ units, press.Produces u a := by
  refine fold_induction
    (motive := fun done p => ∀ a ∈ p.artifacts.artifacts, ∃ u ∈ done,
      press.Produces u a) units ?_ ?_
  · intro a member
    exact absurd member (List.not_mem_nil)
  · intro done p u q _ origins addition
    have earlier : ∀ a ∈ p.artifacts.artifacts, ∃ v ∈ done ++ [u], press.Produces v a := by
      intro a member
      obtain ⟨v, added, produced⟩ := origins a member
      exact ⟨v, List.mem_append_left _ added, produced⟩
    cases addition with
    | unmade cause => exact earlier
    | collided made member met => exact earlier
    | accepted made free =>
        intro a member
        rcases ArtifactSet.mem_registerAll member with before | now
        · exact earlier a before
        · refine ⟨u, List.mem_append_right _ (List.mem_singleton_self u), ?_⟩
          rcases List.mem_append.1 now with inCore | optional
          · exact Press.produces_of_mem_core made inCore
          · exact .optional (mem_successes.1 optional)

/-- All that there is, and all that was dropped, is at files of types. -/
structure Housed (p : Progress) : Prop where
  held : ∀ a ∈ p.artifacts.artifacts, a.path.IsClassFile
  noted : ∀ d ∈ p.artifacts.dropped, d.path.IsClassFile

theorem Housed.step (modelled : u.IsModelled) (housed : p.Housed)
    (addition : Addition press p u q) :
    q.Housed := by
  cases addition with
  | unmade cause => exact ⟨housed.held, housed.noted⟩
  | collided made member met => exact ⟨housed.held, housed.noted⟩
  | @accepted core made free =>
      have new : ∀ a ∈ core ++ successes (press.optionalArtifacts u), a.path.IsClassFile := by
        intro a member
        rcases List.mem_append.1 member with inCore | optional
        · exact (Press.produces_of_mem_core made inCore).isClassFile modelled
        · exact (Press.Produces.optional (mem_successes.1 optional)).isClassFile modelled
      constructor
      · intro a member
        rcases ArtifactSet.mem_registerAll member with before | now
        · exact housed.held a before
        · exact new a now
      · intro d member
        rcases ArtifactSet.mem_dropped_registerAll member with before | ⟨a, now, place, -⟩
        · exact housed.noted d before
        · rw [place]
          exact new a now

theorem housed_start : Housed {} where
  held _ member := absurd member (List.not_mem_nil)
  noted _ member := absurd member (List.not_mem_nil)

theorem housed_run {units : List ProcessUnit} (modelled : ∀ u ∈ units, u.IsModelled) :
    (units.foldl (add press) {}).Housed :=
  fold_induction (motive := fun _ p => p.Housed) units housed_start
    fun _ _ u _ member housed addition => housed.step (modelled u member) addition

theorem housed_ofLowered {tools : Toolchain} {config : Config} {lowered : List Lowered}
    (modelled : ∀ l ∈ lowered, (l.toUnit config.messaging).IsModelled) :
    (ofLowered tools config lowered).Housed := by
  refine housed_run ?_
  intro u member
  obtain ⟨l, inLowered, rfl⟩ := List.mem_map.1 member
  exact modelled l inLowered

section Whole

/-! The container, the index and the copies are added to the sources. -/

variable {injection : Injection} {channel : List ChannelWarning}
  {validation : List (String × ValidationWarning)}

/-- The sources, the container and the index. -/
def indexed (injection : Injection) (channel : List ChannelWarning)
    (validation : List (String × ValidationWarning)) (p : Progress) : ArtifactSet :=
  (p.sources injection).register (p.index injection channel validation).artifact

theorem mem_distinctByPath {before : List Path} {as : List Artifact} {a : Artifact}
    (member : a ∈ distinctByPath before as) : a ∈ as := by
  induction as generalizing before with
  | nil => exact member
  | cons head rest ih =>
      unfold distinctByPath at member
      split at member
      · exact List.mem_cons_of_mem _ (ih member)
      · rcases List.mem_cons.1 member with rfl | inRest
        · exact List.mem_cons_self
        · exact List.mem_cons_of_mem _ (ih inRest)

/-- All artifacts are sources, the container, the index and copies for compiled processes. -/
theorem mem_allArtifacts {a : Artifact}
    (member : a ∈ (p.allArtifacts injection channel validation).artifacts) :
    a ∈ p.artifacts.artifacts ∨ a = p.container injection ∨
      a = (p.index injection channel validation).artifact ∨ ∃ u ∈ p.compiled, u.copy? = some a := by
  rcases ArtifactSet.mem_registerAll member with before | copy
  · rcases ArtifactSet.mem_register before with before | isIndex
    · rcases ArtifactSet.mem_register before with source | isContainer
      · exact .inl source
      · exact .inr (.inl isContainer)
    · exact .inr (.inr (.inl isIndex))
  · exact .inr (.inr (.inr (List.mem_filterMap.1 (mem_distinctByPath copy))))

theorem get?_allArtifacts_of_get? {path : Path} {a : Artifact}
    (held : p.artifacts.get? path = some a) :
    (p.allArtifacts injection channel validation).get? path = some a :=
  ArtifactSet.get?_registerAll_of_get?
    (ArtifactSet.get?_register_of_get? (ArtifactSet.get?_register_of_get? held _) _) _

/-- The container comes where nothing is. -/
theorem get?_container_eq_none (held : ∀ a ∈ p.artifacts.artifacts, a.path.IsClassFile) :
    p.artifacts.get? Container.path = none := by
  refine List.find?_eq_none.2 ?_
  intro a member
  simpa using (held a member).not_container

/-- The index comes where nothing is, not even the container. -/
theorem get?_sources_index (held : ∀ a ∈ p.artifacts.artifacts, a.path.IsClassFile) :
    (p.sources injection).get? Index.path = none := by
  have free : p.artifacts.get? Index.path = none := by
    refine List.find?_eq_none.2 ?_
    intro a member
    simpa using (held a member).not_index
  have apart : Container.path.same Index.path = false := by decide
  rw [sources, ArtifactSet.get?_register, free]
  simp [container, Container.artifact, apart]

theorem get?_allArtifacts_container (held : ∀ a ∈ p.artifacts.artifacts, a.path.IsClassFile) :
    (p.allArtifacts injection channel validation).get? Container.path =
      some (p.container injection) := by
  have registered : (p.sources injection).get? Container.path = some (p.container injection) := by
    rw [sources, ArtifactSet.get?_register, get?_container_eq_none held]
    simp [container, Container.artifact]
  exact ArtifactSet.get?_registerAll_of_get? (ArtifactSet.get?_register_of_get? registered _) _

theorem get?_allArtifacts_index (held : ∀ a ∈ p.artifacts.artifacts, a.path.IsClassFile) :
    (p.allArtifacts injection channel validation).get? Index.path =
      some (p.index injection channel validation).artifact := by
  have registered : (p.indexed injection channel validation).get? Index.path =
      some (p.index injection channel validation).artifact := by
    rw [indexed, ArtifactSet.get?_register, get?_sources_index held]
    simp [Index.artifact]
  exact ArtifactSet.get?_registerAll_of_get? registered _

/-- The container is not dropped. -/
theorem dropped_sources (held : ∀ a ∈ p.artifacts.artifacts, a.path.IsClassFile) :
    (p.sources injection).dropped = p.artifacts.dropped := by
  have container : p.artifacts.get? (p.container injection).path = none :=
    get?_container_eq_none held
  rw [sources, ArtifactSet.dropped_register, container]
  simp

/-- Neither is the index. -/
theorem dropped_indexed (held : ∀ a ∈ p.artifacts.artifacts, a.path.IsClassFile) :
    (p.indexed injection channel validation).dropped = p.artifacts.dropped := by
  have index : (p.sources injection).get? (p.index injection channel validation).artifact.path =
      none := get?_sources_index held
  rw [indexed, ArtifactSet.dropped_register, index, dropped_sources held]
  simp

/-- Apart from the container and the index there are the sources. -/
theorem get?_indexed {path : Path} (notContainer : Container.path.same path = false)
    (notIndex : Index.path.same path = false) :
    (p.indexed injection channel validation).get? path = p.artifacts.get? path := by
  rw [indexed, ArtifactSet.get?_register, sources, ArtifactSet.get?_register]
  simp [container, Container.artifact, Index.artifact, notContainer, notIndex]

end Whole

end Progress

end Flowsmith

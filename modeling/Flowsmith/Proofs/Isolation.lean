import Flowsmith.Proofs.Accounting
import Flowsmith.Proofs.Calls
import Flowsmith.Proofs.Labels

/-!
Failures stay by themselves. A batch with one more process that fails by itself, or with one more
resource that cannot be read, has the outcome of the batch without it, apart from the record of the
failure and from the wording of the index.
-/

namespace Flowsmith

/-- A list with one more element somewhere. -/
def Inserted {α : Type} (a : α) (xs ys : List α) : Prop :=
  ∃ before after, xs = before ++ after ∧ ys = before ++ a :: after

namespace Inserted

variable {α β ε : Type} {a : α} {xs ys : List α}

theorem append_left (inserted : Inserted a xs ys) (zs : List α) :
    Inserted a (zs ++ xs) (zs ++ ys) := by
  obtain ⟨before, after, rfl, rfl⟩ := inserted
  exact ⟨zs ++ before, after, by simp, by simp⟩

theorem append_right (inserted : Inserted a xs ys) (zs : List α) :
    Inserted a (xs ++ zs) (ys ++ zs) := by
  obtain ⟨before, after, rfl, rfl⟩ := inserted
  exact ⟨before, after ++ zs, by simp, by simp⟩

theorem map (inserted : Inserted a xs ys) (f : α → β) : Inserted (f a) (xs.map f) (ys.map f) := by
  obtain ⟨before, after, rfl, rfl⟩ := inserted
  exact ⟨before.map f, after.map f, by simp, by simp⟩

theorem filterMap (inserted : Inserted a xs ys) {f : α → Option β} {b : β} (kept : f a = some b) :
    Inserted b (xs.filterMap f) (ys.filterMap f) := by
  obtain ⟨before, after, rfl, rfl⟩ := inserted
  exact ⟨before.filterMap f, after.filterMap f, by simp, by simp [kept]⟩

theorem filterMap_eq (inserted : Inserted a xs ys) {f : α → Option β} (left : f a = none) :
    ys.filterMap f = xs.filterMap f := by
  obtain ⟨before, after, rfl, rfl⟩ := inserted
  simp [left]

theorem filter (inserted : Inserted a xs ys) {p : α → Bool} (kept : p a = true) :
    Inserted a (xs.filter p) (ys.filter p) := by
  obtain ⟨before, after, rfl, rfl⟩ := inserted
  exact ⟨before.filter p, after.filter p, by simp, by simp [kept]⟩

theorem filter_eq (inserted : Inserted a xs ys) {p : α → Bool} (left : p a = false) :
    ys.filter p = xs.filter p := by
  obtain ⟨before, after, rfl, rfl⟩ := inserted
  simp [left]

section Results

variable {rs ts : List (Except ε β)}

theorem successes_of_error {e : ε} (inserted : Inserted (.error e) rs ts) :
    successes ts = successes rs :=
  inserted.filterMap_eq rfl

theorem failures_of_error {e : ε} (inserted : Inserted (.error e) rs ts) :
    Inserted e (failures rs) (failures ts) :=
  inserted.filterMap rfl

theorem successes_of_ok {b : β} (inserted : Inserted (.ok b) rs ts) :
    Inserted b (successes rs) (successes ts) :=
  inserted.filterMap rfl

theorem failures_of_ok {b : β} (inserted : Inserted (.ok b) rs ts) : failures ts = failures rs :=
  inserted.filterMap_eq rfl

end Results

end Inserted

/-- How a definition fails by itself: in the first of validation, derivation of data models and
    lowering that it does not pass. -/
inductive Definition.Fails (config : Config) (d : Definition) : Failure → Prop
  | invalid (bad : d.validate.isOk = false) : d.Fails config (.collect d.validate.errorSummary)
  | underivable (ok : d.validate.isOk = true) (hasModels : d.kind.isModelless = false)
      {e : ModelError} (failed : DataModels.derive (Batch.modelOptions config) d = .error e) :
      d.Fails config (.modelDerivation e)
  | unlowerable (ok : d.validate.isOk = true)
      (modelled : d.kind.isModelless = true ∨
        ∃ models, DataModels.derive (Batch.modelOptions config) d = .ok models)
      {e : GenerationError} (failed : Executable.ofDefinition lower d = .error e) :
      d.Fails config (.modelGeneration e)

/-- Whether a definition does not pass validation, the derivation of data models or lowering. -/
def Definition.FailsAlone (config : Config) (d : Definition) : Prop :=
  d.validate.isOk = false ∨
  (d.kind.isModelless = false ∧
    ∃ e, DataModels.derive (Batch.modelOptions config) d = .error e) ∨
  ∃ e, Executable.ofDefinition lower d = .error e

theorem Definition.FailsAlone.exists_fails {config : Config} {d : Definition}
    (alone : d.FailsAlone config) : ∃ failure, d.Fails config failure := by
  cases ok : d.validate.isOk with
  | false => exact ⟨_, .invalid ok⟩
  | true =>
      cases modelless : d.kind.isModelless with
      | false =>
          cases derived : DataModels.derive (Batch.modelOptions config) d with
          | error e => exact ⟨_, .underivable ok modelless derived⟩
          | ok models =>
              obtain ⟨e, failed⟩ : ∃ e, Executable.ofDefinition lower d = .error e := by
                simpa [FailsAlone, ok, modelless, derived] using alone
              exact ⟨_, .unlowerable ok (.inr ⟨models, derived⟩) failed⟩
      | true =>
          obtain ⟨e, failed⟩ : ∃ e, Executable.ofDefinition lower d = .error e := by
            simpa [FailsAlone, ok, modelless] using alone
          exact ⟨_, .unlowerable ok (.inl modelless) failed⟩

section Stages

variable {config : Config} {c : Collected} {failure : Failure}

theorem Modelled.ofCollected_of_underivable {e : ModelError}
    (hasModels : c.definition.kind.isModelless = false)
    (failed : DataModels.derive (Batch.modelOptions config) c.definition = .error e) :
    ofCollected (Batch.modelOptions config) c =
      .error (.ofDefinition c.definition (.modelDerivation e)) := by
  simp [ofCollected, hasModels, failed]

theorem Modelled.exists_ofCollected
    (modelled : c.definition.kind.isModelless = true ∨
      ∃ models, DataModels.derive (Batch.modelOptions config) c.definition = .ok models) :
    ∃ m, ofCollected (Batch.modelOptions config) c = .ok m ∧ m.source = c := by
  unfold ofCollected
  split
  · exact ⟨_, rfl, rfl⟩
  · rename_i hasModels
    rcases modelled with modelless | ⟨models, derived⟩
    · exact absurd modelless hasModels
    · rw [derived]
      exact ⟨_, rfl, rfl⟩

theorem Lowered.ofModelled_of_unlowerable {m : Modelled} {e : GenerationError}
    (failed : Executable.ofDefinition lower m.source.definition = .error e) :
    ofModelled lower m = .error (.ofDefinition m.source.definition (.modelGeneration e)) := by
  simp [ofModelled, failed]

namespace Batch

variable {g g' : Gathered}

/-- One more definition that is well-formed is one more member, and has no record. -/
theorem members_of_inserted (inserted : Inserted c g.definitions g'.definitions)
    (ok : c.definition.validate.isOk = true) :
    Inserted c (ofGathered false g).members (ofGathered false g').members ∧
      illFormed g' = illFormed g := by
  rw [members_ofGathered_false, members_ofGathered_false]
  refine ⟨inserted.filter ok, ?_⟩
  exact (inserted.map fun c => (c, c.definition.validate)).filterMap_eq
    (by simp [validationError?, ok])

/-- One more definition that is not well-formed is no member, and has a record. -/
theorem illFormed_of_inserted (inserted : Inserted c g.definitions g'.definitions)
    (bad : c.definition.validate.isOk = false) :
    (ofGathered false g').members = (ofGathered false g).members ∧
      Inserted (.ofDefinition c.definition (.collect c.definition.validate.errorSummary))
        (illFormed g) (illFormed g') := by
  rw [members_ofGathered_false, members_ofGathered_false]
  refine ⟨inserted.filter_eq bad, ?_⟩
  exact (inserted.map fun c => (c, c.definition.validate)).filterMap
    (by simp [validationError?, bad])

/-- Whether a batch has the lowered processes of another one, and one more record before fan-out. -/
structure ExtendedBy (config : Config) (r : ErrorRecord) (first second : Batch) : Prop where
  lowered : (second.lowered (.ofConfig config) config).1 =
    (first.lowered (.ofConfig config) config).1
  errors : Inserted r (first.errors ++ (first.lowered (.ofConfig config) config).2)
    (second.errors ++ (second.lowered (.ofConfig config) config).2)

theorem lowered_of_members (config : Config) {b b' : Batch} (same : b'.members = b.members) :
    b'.lowered (.ofConfig config) config = b.lowered (.ofConfig config) config := by
  simp only [lowered_eq, executables, modelled, same]

/-- One more process that fails by itself is not lowered, and adds its record to the failures. -/
theorem extendedBy_of_inserted (inserted : Inserted c g.definitions g'.definitions)
    (sameErrors : g'.errors = g.errors) (fails : c.definition.Fails config failure) :
    (ofGathered false g).ExtendedBy config (.ofDefinition c.definition failure)
      (ofGathered false g') := by
  cases fails with
  | invalid bad =>
      obtain ⟨members, recorded⟩ := illFormed_of_inserted inserted bad
      have same := lowered_of_members config members
      refine ⟨by rw [same], ?_⟩
      rw [same, errors_ofGathered, errors_ofGathered, sameErrors]
      exact (recorded.append_left _).append_right _
  | underivable ok hasModels failed =>
      obtain ⟨members, passed⟩ := members_of_inserted inserted ok
      have stage := members.map (Modelled.ofCollected (modelOptions config))
      rw [Modelled.ofCollected_of_underivable hasModels failed] at stage
      have left : successes ((ofGathered false g').modelled config) =
          successes ((ofGathered false g).modelled config) := stage.successes_of_error
      have noted := stage.failures_of_error
      constructor
      · simp only [lowered_eq, executables, left]
      · simp only [lowered_eq, executables, left, errors_ofGathered, sameErrors, passed]
        exact (noted.append_right _).append_left _
  | unlowerable ok derived failed =>
      obtain ⟨members, passed⟩ := members_of_inserted inserted ok
      obtain ⟨m, isModelled, rfl⟩ := Modelled.exists_ofCollected derived
      have first := members.map (Modelled.ofCollected (modelOptions config))
      rw [isModelled] at first
      have kept : failures ((ofGathered false g').modelled config) =
          failures ((ofGathered false g).modelled config) := first.failures_of_ok
      -- It passes the first stage, so it is one more input of the second, where it fails.
      have second := first.successes_of_ok.map (Lowered.ofModelled Flowsmith.lower)
      rw [Lowered.ofModelled_of_unlowerable failed] at second
      constructor
      · rw [lowered_eq, lowered_eq]
        exact second.successes_of_error
      · rw [lowered_eq, lowered_eq, errors_ofGathered, errors_ofGathered, sameErrors, passed, kept]
        exact (second.failures_of_error.append_left _).append_left _

/-- One more resource that cannot be read adds its record, and changes nothing else. -/
theorem extendedBy_of_unread {r : ErrorRecord} (sameDefinitions : g'.definitions = g.definitions)
    (inserted : Inserted r g.errors g'.errors) :
    (ofGathered false g).ExtendedBy config r (ofGathered false g') := by
  have members : (ofGathered false g').members = (ofGathered false g).members := by
    rw [members_ofGathered_false, members_ofGathered_false, wellFormed, wellFormed, sameDefinitions]
  have same := lowered_of_members config members
  refine ⟨by rw [same], ?_⟩
  rw [same, errors_ofGathered, errors_ofGathered, illFormed, illFormed, sameDefinitions]
  exact (inserted.append_right _).append_right _

end Batch

end Stages

section IndexText

/-! Two sets that differ in the text of the index only. -/

/-- An artifact without its content, if it is the index. -/
def Artifact.withoutIndexText (a : Artifact) : Artifact :=
  if a.path.same Index.path then { a with content := .text "" } else a

@[simp] theorem Artifact.path_withoutIndexText (a : Artifact) :
    a.withoutIndexText.path = a.path := by
  unfold withoutIndexText
  split <;> rfl

@[simp] theorem Artifact.category_withoutIndexText (a : Artifact) :
    a.withoutIndexText.category = a.category := by
  unfold withoutIndexText
  split <;> rfl

namespace ArtifactSet

/-- Whether two sets hold the same artifacts, in the same order and apart from the text of the
    index, and have dropped the same ones. -/
structure AgreesBeyondIndex (s t : ArtifactSet) : Prop where
  artifacts : t.artifacts.map Artifact.withoutIndexText = s.artifacts.map Artifact.withoutIndexText
  dropped : t.dropped = s.dropped

variable {s t : ArtifactSet} {a b : Artifact}

/-- Sets agree when their artifacts do, one by one. -/
theorem agreesBeyondIndex_iff : s.AgreesBeyondIndex t ↔
    s.Related (fun a b => a.withoutIndexText = b.withoutIndexText) t := by
  have lists : t.artifacts.map Artifact.withoutIndexText =
      s.artifacts.map Artifact.withoutIndexText ↔
      List.Forall₂ (fun a b => a.withoutIndexText = b.withoutIndexText)
        s.artifacts t.artifacts := by
    rw [eq_comm, ← List.forall₂_eq_eq_eq, List.forall₂_map_left_iff, List.forall₂_map_right_iff]
  constructor
  · intro agree
    exact ⟨lists.1 agree.artifacts, agree.dropped⟩
  · intro related
    exact ⟨lists.2 related.artifacts, related.dropped⟩

theorem place_of_withoutIndexText_eq (same : a.withoutIndexText = b.withoutIndexText) :
    b.path = a.path ∧ b.category = a.category := by
  refine ⟨?_, ?_⟩
  · rw [← b.path_withoutIndexText, ← same, a.path_withoutIndexText]
  · rw [← b.category_withoutIndexText, ← same, a.category_withoutIndexText]

/-- Sets that agree keep agreeing when the same is registered in both. -/
theorem AgreesBeyondIndex.register (agree : s.AgreesBeyondIndex t)
    (same : b.withoutIndexText = a.withoutIndexText) :
    (s.register a).AgreesBeyondIndex (t.register b) :=
  agreesBeyondIndex_iff.2
    ((agreesBeyondIndex_iff.1 agree).register place_of_withoutIndexText_eq same.symm)

theorem AgreesBeyondIndex.registerAll (agree : s.AgreesBeyondIndex t) (as : List Artifact) :
    (s.registerAll as).AgreesBeyondIndex (t.registerAll as) :=
  agreesBeyondIndex_iff.2
    ((agreesBeyondIndex_iff.1 agree).registerAll place_of_withoutIndexText_eq
      (List.forall₂_same.2 fun _ _ => rfl))

end ArtifactSet

/-- The index has the same place and category whatever it says. -/
theorem Index.withoutIndexText_artifact (i j : Index) :
    j.artifact.withoutIndexText = i.artifact.withoutIndexText := by
  simp [Artifact.withoutIndexText, Index.artifact]

/-- All artifacts agree beyond the index whatever warnings there are. -/
theorem Progress.allArtifacts_agree (p : Progress) (injection : Injection)
    (channel : List ChannelWarning) (validation validation' : List (String × ValidationWarning)) :
    (p.allArtifacts injection channel validation).AgreesBeyondIndex
      (p.allArtifacts injection channel validation') := by
  have sources : (p.sources injection).AgreesBeyondIndex (p.sources injection) := ⟨rfl, rfl⟩
  exact (sources.register (Index.withoutIndexText_artifact _ _)).registerAll p.copies

end IndexText

/-- An outcome that is another one but for one more record and the wording of the index. -/
structure Output.ExtendedBy (r : ErrorRecord) (first second : Output) : Prop where
  compiled : second.compiled = first.compiled
  channelWarnings : second.channelWarnings = first.channelWarnings
  /-- The artifacts are the same apart from the text of the index, and so are those that were
      dropped. -/
  artifacts : first.artifacts.AgreesBeyondIndex second.artifacts
  /-- The indexes, as they are read, have the same fingerprint and list the same processes. -/
  index : ∃ (v w : Json) (fingerprint : String) (entries : List Json),
    first.artifacts.IndexReads v ∧ second.artifacts.IndexReads w ∧
    v.field? "fingerprint" = some (.string fingerprint) ∧
    w.field? "fingerprint" = some (.string fingerprint) ∧
    v.field? "processes" = some (.array entries) ∧ w.field? "processes" = some (.array entries)
  /-- The report has the record in addition. -/
  errors : Inserted r first.errors second.errors

namespace Batch

variable {config : Config} {b b' : Batch} {r : ErrorRecord}

/-- Fan-out and what follows see the lowered processes only. -/
theorem ExtendedBy.compile (extended : b.ExtendedBy config r b') :
    (b.compile (.ofConfig config) config).ExtendedBy r (b'.compile (.ofConfig config) config) := by
  obtain ⟨same, inserted⟩ := extended
  have sameProgress : b'.progress config = b.progress config := by
    unfold progress units press
    rw [same]
  constructor
  · rw [compile_compiled, compile_compiled, sameProgress]
  · change channelFindings _ (b'.lowered _ _).1 = channelFindings _ (b.lowered _ _).1
    rw [same]
  · rw [compile_artifacts, compile_artifacts, sameProgress, same]
    exact Progress.allArtifacts_agree _ _ _ _ _
  · refine ⟨_, _, _, _, indexReads_compile, indexReads_compile, rfl, ?_, rfl, ?_⟩
    · simp only [index, Index.toJson, Progress.index, same]
      rfl
    · simp only [index, Index.toJson, Progress.index, same]
      rfl
  · rw [compile_errors, compile_errors, sameProgress]
    exact inserted.append_right _

end Batch

section Input

variable {config : Config} {given before after : List Definition} {resources : List Resource}

namespace Gathered

/-- One more definition that is given is one more that is gathered. -/
theorem inserted_ofInput (d : Definition) :
    Inserted (.bare d) (ofInput [.json] (before ++ after) resources).unlabelled.definitions
      (ofInput [.json] (before ++ d :: after) resources).unlabelled.definitions := by
  rw [unlabelled_ofInput, unlabelled_ofInput]
  have given : Inserted d (before ++ after) (before ++ d :: after) := ⟨before, after, rfl, rfl⟩
  exact (given.map Collected.bare).append_right _

/-- One more resource that cannot be read is one more record, and no definition. -/
theorem unread_ofInput {before after : List Resource} {r : Resource} {e : ParseError}
    (failed : ResourceParser.read [.json] r = .error e) :
    (ofInput [.json] given (before ++ r :: after)).definitions =
      (ofInput [.json] given (before ++ after)).definitions ∧
    Inserted { resource := some r.path, failure := .collect e.message }
      (ofInput [.json] given (before ++ after)).errors
      (ofInput [.json] given (before ++ r :: after)).errors := by
  have nothing : ofResource [.json] r =
      ⟨[], [{ resource := some r.path, failure := .collect e.message }]⟩ := by
    simp [ofResource, failed]
  simp only [ofInput, List.map_append, List.map_cons, List.flatMap_append, List.flatMap_cons,
    nothing, List.nil_append, List.singleton_append, true_and]
  exact ⟨_, _, rfl, rfl⟩

end Gathered

section Outcome

variable {failure : Failure} {e : ParseError}

/-- A process that fails by itself adds its record to the outcome. -/
theorem Output.extendedBy_of_fails {d : Definition} (fails : d.Fails config failure) :
    Output.ExtendedBy (.ofDefinition d failure)
      ((Batch.ofGathered false (Gathered.ofInput [.json] (before ++ after) resources)).compile
        (.ofConfig config) config)
      ((Batch.ofGathered false (Gathered.ofInput [.json] (before ++ d :: after) resources)).compile
        (.ofConfig config) config) := by
  -- The labels of the definitions given after this one differ, and no outcome depends on labels.
  rw [← Batch.compile_unlabelled _ _ (Gathered.ofInput [.json] (before ++ after) resources),
    ← Batch.compile_unlabelled _ _ (Gathered.ofInput [.json] (before ++ d :: after) resources)]
  exact (Batch.extendedBy_of_inserted (Gathered.inserted_ofInput d) rfl fails).compile

/-- A resource that cannot be read adds its record to the outcome. -/
theorem Output.extendedBy_of_unread {before after : List Resource} {r : Resource}
    (failed : ResourceParser.read [.json] r = .error e) :
    Output.ExtendedBy { resource := some r.path, failure := .collect e.message }
      ((Batch.ofGathered false (Gathered.ofInput [.json] given (before ++ after))).compile
        (.ofConfig config) config)
      ((Batch.ofGathered false (Gathered.ofInput [.json] given (before ++ r :: after))).compile
        (.ofConfig config) config) := by
  obtain ⟨sameDefinitions, inserted⟩ := Gathered.unread_ofInput failed
  exact (Batch.extendedBy_of_unread sameDefinitions inserted).compile

end Outcome

end Input

/-- Where failures are not fatal and no placeholder is used, a process that fails by itself changes
    nothing for the others of its batch, wherever it is given and whether or not they call it;
    neither does a resource that cannot be read. All that is added is a record. -/
theorem isolated_of_compile (config : Config) (soft : config.failOnError = false)
    (noPlaceholder : config.emitPlaceholderWhenEmpty = false) :
    (∀ (before after : List Definition) (resources : List Resource) (d : Definition),
      ((before ++ after ++ readDefinitions resources).map Definition.id).Nodup →
      d.id ∉ (before ++ after ++ readDefinitions resources).map Definition.id →
      d.FailsAlone config →
        ∃ first second failure,
          compile (.ofConfig config) config (before ++ after) resources = .ok first ∧
          compile (.ofConfig config) config (before ++ d :: after) resources = .ok second ∧
          d.Fails config failure ∧ first.ExtendedBy (.ofDefinition d failure) second) ∧
    ∀ (given : List Definition) (before after : List Resource) (r : Resource) (e : ParseError),
      ((given ++ readDefinitions (before ++ after)).map Definition.id).Nodup →
      ResourceParser.read [.json] r = .error e →
        ∃ first second,
          compile (.ofConfig config) config given (before ++ after) = .ok first ∧
          compile (.ofConfig config) config given (before ++ r :: after) = .ok second ∧
          first.ExtendedBy { resource := some r.path, failure := .collect e.message } second := by
  constructor
  · intro before after resources d distinct fresh alone
    obtain ⟨failure, fails⟩ := alone.exists_fails
    have allDistinct : ((before ++ d :: after ++ readDefinitions resources).map
        Definition.id).Nodup := by
      rw [List.append_assoc, List.cons_append,
        (List.perm_middle.map Definition.id).nodup_iff, ← List.append_assoc, List.map_cons]
      exact List.nodup_cons.2 ⟨fresh, distinct⟩
    exact ⟨_, _, failure, compile_of_distinct soft noPlaceholder distinct,
      compile_of_distinct soft noPlaceholder allDistinct, fails, Output.extendedBy_of_fails fails⟩
  · intro given before after r e distinct failed
    have nothing : readDefinitions (before ++ r :: after) = readDefinitions (before ++ after) := by
      simp [readDefinitions, failed]
    exact ⟨_, _, compile_of_distinct soft noPlaceholder distinct,
      compile_of_distinct soft noPlaceholder (nothing ▸ distinct),
      Output.extendedBy_of_unread failed⟩

/-- A process that is called and has no start, and a resource that no parser takes. -/
theorem isolated_of_compile_called :
    (∃ first second failure,
      compile (.ofConfig { failOnError := false }) { failOnError := false } [.calling "a" "b"] [] =
        .ok first ∧
      compile (.ofConfig { failOnError := false }) { failOnError := false }
        [.calling "a" "b", { id := "b" }] [] = .ok second ∧
      Definition.Fails { failOnError := false } { id := "b" } failure ∧
      first.ExtendedBy (.ofDefinition { id := "b" } failure) second) ∧
    ∃ (e : ParseError) (first second : Output),
      compile (.ofConfig { failOnError := false }) { failOnError := false } [.calling "a" "b"] [] =
        .ok first ∧
      compile (.ofConfig { failOnError := false }) { failOnError := false } [.calling "a" "b"]
        [⟨"notes.txt", []⟩] = .ok second ∧
      first.ExtendedBy { resource := some "notes.txt", failure := .collect e.message } second := by
  obtain ⟨process, resource⟩ := isolated_of_compile { failOnError := false } rfl rfl
  constructor
  · exact process [.calling "a" "b"] [] [] { id := "b" } (by decide) (by decide)
      (.inr (.inr ⟨_, rfl⟩))
  · exact ⟨_, resource [.calling "a" "b"] [] [] ⟨"notes.txt", []⟩ _ (by decide) rfl⟩

end Flowsmith

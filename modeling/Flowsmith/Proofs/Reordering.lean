import Flowsmith.Proofs.Accounting
import Flowsmith.Proofs.Calls
import Flowsmith.Proofs.Labels
import Mathlib.Data.List.Perm.Basic

/-!
Order of a batch. The first process to come keeps a place, so the order decides where several
processes claim one. Where no place is contested, each process adds what it would add alone: the run
is a sum over the processes, and the order shows in the lists of the container and the index only.
-/

namespace Flowsmith

/-- Nothing was dropped, and no process was refused for a place. -/
structure Uncontested (set : ArtifactSet) (errors : Report) : Prop where
  dropped : set.dropped = []
  collisions : ∀ r ∈ errors, ∀ path, r.failure ≠ .pathCollision path

namespace Press

/-- What a process adds to the set. -/
def sources (press : Press) (u : ProcessUnit) : List Artifact :=
  match press.coreArtifacts u with
  | .ok core => core ++ successes (press.optionalArtifacts u)
  | .error _ => []

/-- What a process adds to the report. -/
def faults (press : Press) (u : ProcessUnit) : Report :=
  match press.coreArtifacts u with
  | .ok _ => (failures (press.optionalArtifacts u)).map (ErrorRecord.ofDefinition u.definition)
  | .error failure => [.ofDefinition u.definition failure]

/-- Whether the core of a process can be made. -/
def makes (press : Press) (u : ProcessUnit) : Bool :=
  (press.coreArtifacts u).isOk

/-- No two sources of some processes share a place. -/
def Disjoint (press : Press) (units : List ProcessUnit) : Prop :=
  (units.flatMap press.sources).Pairwise fun a b => a.path.same b.path = false

variable {press : Press} {u : ProcessUnit} {units units' : List ProcessUnit}

theorem sources_of_ok {core : List Artifact} (made : press.coreArtifacts u = .ok core) :
    press.sources u = core ++ successes (press.optionalArtifacts u) := by
  simp only [sources, made]

/-- Without a core there are no sources, and the report says why. -/
theorem of_error {failure : Failure} (unmade : press.coreArtifacts u = .error failure) :
    press.sources u = [] ∧ press.faults u = [.ofDefinition u.definition failure] ∧
      press.makes u = false := by
  simp [sources, faults, makes, unmade, Except.isOk, Except.toBool]

/-- The faults of a process by itself are about pages and calls. -/
theorem not_pathCollision_of_mem_faults {r : ErrorRecord} (member : r ∈ press.faults u)
    (path : String) : r.failure ≠ .pathCollision path := by
  unfold faults at member
  split at member
  · obtain ⟨failure, failed, rfl⟩ := List.mem_map.1 member
    obtain ⟨className, e, rfl⟩ := failure_of_optionalArtifacts (mem_failures.1 failed)
    simp [ErrorRecord.ofDefinition]
  · rename_i failure unmade
    obtain rfl := List.mem_singleton.1 member
    rcases failure_of_coreArtifacts unmade with ⟨node, child, rfl⟩ | ⟨className, e, rfl⟩
    · simp [ErrorRecord.ofDefinition]
    · simp [ErrorRecord.ofDefinition]

theorem Disjoint.perm (disjoint : press.Disjoint units) (perm : units'.Perm units) :
    press.Disjoint units' := by
  -- A permutation keeps what holds of each pair in either order.
  have symmetric : ∀ {a b : Artifact}, a.path.same b.path = false → b.path.same a.path = false := by
    intro a b apart
    rw [Bool.eq_false_iff] at apart ⊢
    exact fun met => apart (Path.same_symm met)
  exact ((perm.flatMap_right press.sources).pairwise_iff symmetric).2 disjoint

end Press

namespace Progress

variable {press : Press} {units units' done : List ProcessUnit} {u : ProcessUnit} {p q : Progress}

/-- What processes come to when each adds what it would add alone. -/
def sum (press : Press) (units : List ProcessUnit) : Progress :=
  { artifacts := ArtifactSet.registerAll {} (units.flatMap press.sources)
    errors := units.flatMap press.faults
    compiled := units.filter press.makes }

theorem get?_sum (path : Path) : (sum press units).artifacts.get? path =
    (units.flatMap press.sources).find? fun a => a.path.same path := by
  simp only [sum, ArtifactSet.get?_registerAll]
  rfl

theorem uncontested_sum (disjoint : press.Disjoint units) :
    Uncontested (sum press units).artifacts (sum press units).errors := by
  constructor
  · exact (ArtifactSet.dropped_registerAll_eq_iff {} _).2 ⟨fun _ _ => rfl, disjoint⟩
  · intro r member path
    obtain ⟨v, -, fault⟩ := List.mem_flatMap.1 member
    exact Press.not_pathCollision_of_mem_faults fault path

/-- One more process shares no place with the others exactly when its own places are apart and
    free. -/
theorem disjoint_append_iff : press.Disjoint (done ++ [u]) ↔
    press.Disjoint done ∧
      (∀ a ∈ press.sources u, (sum press done).artifacts.get? a.path = none) ∧
      (press.sources u).Pairwise fun a b => a.path.same b.path = false := by
  have free (a : Artifact) : (sum press done).artifacts.get? a.path = none ↔
      ∀ b ∈ done.flatMap press.sources, b.path.same a.path = false := by
    rw [get?_sum, List.find?_eq_none]
    simp
  simp only [free, Press.Disjoint, List.flatMap_append, List.flatMap_singleton,
    List.pairwise_append]
  constructor
  · rintro ⟨before, own, across⟩
    exact ⟨before, fun a now b earlier => across b earlier a now, own⟩
  · rintro ⟨before, across, own⟩
    exact ⟨before, own, fun b earlier a now => across a now b earlier⟩

/-- What was contested before an addition is contested after it. -/
theorem Addition.uncontested (addition : Addition press p u q)
    (after : Uncontested q.artifacts q.errors) : Uncontested p.artifacts p.errors := by
  have collisions : ∀ r ∈ p.errors, ∀ path, r.failure ≠ .pathCollision path := by
    intro r member
    refine after.collisions r ?_
    cases addition <;> exact List.mem_append_left _ member
  refine ⟨?_, collisions⟩
  cases addition with
  | unmade cause => exact after.dropped
  | collided made member met => exact after.dropped
  | @accepted core made free =>
      have kept := ArtifactSet.dropped_prefix_registerAll p.artifacts
        (core ++ successes (press.optionalArtifacts u))
      rw [after.dropped] at kept
      exact List.prefix_nil.1 kept

/-- An addition to processes that are apart is contested, or is one more term of the sum. -/
theorem Addition.sum_append (disjoint : press.Disjoint done)
    (addition : Addition press (sum press done) u q) :
    (Uncontested q.artifacts q.errors → press.Disjoint (done ++ [u])) ∧
      (press.Disjoint (done ++ [u]) → q = sum press (done ++ [u])) := by
  cases addition with
  | unmade cause =>
      obtain ⟨noSources, fault, unmade⟩ := Press.of_error cause
      constructor
      · intro _
        rw [disjoint_append_iff, noSources]
        exact ⟨disjoint, fun _ member => absurd member (List.not_mem_nil), .nil⟩
      · intro _
        simp [sum, fail, noSources, fault, unmade]
  | @collided core taken made member met =>
      constructor
      · intro after
        have noted : ErrorRecord.ofDefinition u.definition (.pathCollision taken.path.text) ∈
            ((sum press done).fail u (.pathCollision taken.path.text)).errors := by
          simp [fail]
        exact absurd rfl (after.collisions _ noted taken.path.text)
      · intro apart
        have source : taken ∈ press.sources u := by
          rw [Press.sources_of_ok made]
          exact List.mem_append_left _ member
        have free := (disjoint_append_iff.1 apart).2.1 taken source
        rw [ArtifactSet.contains, free] at met
        exact absurd met (by simp)
  | @accepted core made free =>
      rw [← Press.sources_of_ok made]
      constructor
      · intro after
        have nothingDropped : ((sum press done).artifacts.registerAll (press.sources u)).dropped =
            (sum press done).artifacts.dropped := by
          rw [after.dropped, (uncontested_sum disjoint).dropped]
        exact disjoint_append_iff.2
          ⟨disjoint, (ArtifactSet.dropped_registerAll_eq_iff _ _).1 nothingDropped⟩
      · intro _
        have isMade : press.makes u = true := by
          rw [Press.makes, made]
          rfl
        have fault : press.faults u = (failures (press.optionalArtifacts u)).map
            (ErrorRecord.ofDefinition u.definition) := by
          simp only [Press.faults, made]
        simp [sum, isMade, fault, ArtifactSet.registerAll]

/-- A run is uncontested exactly when the processes share no place, and then it is the sum of
    them. -/
theorem uncontested_run_iff (units : List ProcessUnit) :
    (Uncontested (units.foldl (add press) {}).artifacts (units.foldl (add press) {}).errors ↔
      press.Disjoint units) ∧
    (press.Disjoint units → units.foldl (add press) {} = sum press units) := by
  refine fold_induction (motive := fun done p =>
    (Uncontested p.artifacts p.errors ↔ press.Disjoint done) ∧
      (press.Disjoint done → p = sum press done)) units ?_ ?_
  · have start : Uncontested ({} : Progress).artifacts ({} : Progress).errors :=
      ⟨rfl, fun _ member => absurd member (List.not_mem_nil)⟩
    exact ⟨⟨fun _ => .nil, fun _ => start⟩, fun _ => rfl⟩
  · intro done p u q _ held addition
    by_cases disjoint : press.Disjoint done
    · rw [held.2 disjoint] at addition
      obtain ⟨apart, isSum⟩ := addition.sum_append disjoint
      refine ⟨⟨apart, ?_⟩, isSum⟩
      intro both
      rw [isSum both]
      exact uncontested_sum both
    · -- What is contested stays so, and a shared place stays shared.
      have stays : ¬ press.Disjoint (done ++ [u]) := fun both =>
        disjoint (disjoint_append_iff.1 both).1
      have contested : ¬ Uncontested q.artifacts q.errors := fun after =>
        disjoint (held.1.1 (addition.uncontested after))
      exact ⟨⟨fun after => absurd after contested, fun both => absurd both stays⟩,
        fun both => absurd both stays⟩

/-- Where places are apart, the set answers the same in any order. -/
theorem get?_sum_perm (disjoint : press.Disjoint units) (perm : units'.Perm units) (path : Path) :
    (sum press units').artifacts.get? path = (sum press units).artifacts.get? path := by
  rw [get?_sum, get?_sum]
  refine Option.ext ?_
  intro a
  rw [ArtifactSet.find?_eq_some_iff_of_pairwise (disjoint.perm perm),
    ArtifactSet.find?_eq_some_iff_of_pairwise disjoint, (perm.flatMap_right press.sources).mem_iff]

end Progress

section Lowered

variable {tools : Toolchain} {config : Config} {lowered lowered' : List Lowered}

/-- Processes can call the same others in any order. -/
theorem Press.ofLowered_perm (distinct : (lowered.map fun l => l.source.id).Nodup)
    (perm : lowered'.Perm lowered) :
    Press.ofLowered tools config lowered' = Press.ofLowered tools config lowered := by
  have keys : ((lowered.map fun l => (l.source.id,
      Names.ofId l.source.id l.source.definition.package)).map
      Prod.fst).Nodup := by
    rw [List.map_map]
    exact distinct
  have callable : callableNames lowered' = callableNames lowered :=
    (Dict.ofList_eq_of_perm keys (perm.symm.map _)).symm
  unfold Press.ofLowered
  rw [callable]

namespace Progress

/-- An uncontested run in another order is uncontested and adds the same. -/
theorem ofLowered_perm (distinct : (lowered.map fun l => l.source.id).Nodup)
    (perm : lowered'.Perm lowered)
    (uncontested : Uncontested (ofLowered tools config lowered).artifacts
      (ofLowered tools config lowered).errors) :
    Uncontested (ofLowered tools config lowered').artifacts
      (ofLowered tools config lowered').errors ∧
    (ofLowered tools config lowered').compiled.Perm (ofLowered tools config lowered).compiled ∧
    (ofLowered tools config lowered').errors.Perm (ofLowered tools config lowered).errors ∧
    ∀ path, (ofLowered tools config lowered').artifacts.get? path =
      (ofLowered tools config lowered).artifacts.get? path := by
  unfold ofLowered at uncontested ⊢
  rw [Press.ofLowered_perm distinct perm]
  have units := perm.map (Lowered.toUnit config.messaging)
  have disjoint := (uncontested_run_iff _).1.1 uncontested
  have disjoint' := disjoint.perm units
  rw [(uncontested_run_iff _).2 disjoint, (uncontested_run_iff _).2 disjoint']
  exact ⟨uncontested_sum disjoint', units.filter _, units.flatMap_right _,
    get?_sum_perm disjoint units⟩

theorem copies_eq_nil (given : ∀ l ∈ lowered, l.source.contents = none) :
    (ofLowered tools config lowered).copies = [] := by
  have none : (ofLowered tools config lowered).compiled.filterMap ProcessUnit.copy? = [] := by
    refine List.filterMap_eq_nil_iff.2 ?_
    intro u compiled
    obtain ⟨l, member, rfl⟩ := List.mem_map.1 ((compiled_sublist_run _).subset compiled)
    simp [ProcessUnit.copy?, Lowered.toUnit, given l member]
  rw [copies, none]
  rfl

end Progress

/-- Where nothing was read from a resource, nothing comes after the index. -/
theorem Output.artifacts_ofLowered (given : ∀ l ∈ lowered, l.source.contents = none)
    (before : Report) (warnings : List (String × ValidationWarning)) :
    (Output.ofLowered tools config lowered before warnings).artifacts =
      (Progress.ofLowered tools config lowered).indexed tools.injection
        (channelFindings config.messaging lowered) warnings := by
  change ((Progress.ofLowered tools config lowered).indexed _ _ _).registerAll _ = _
  rw [Progress.copies_eq_nil given]
  rfl

/-- An outcome in another order: no place is contested, the same processes are compiled, the same
    failures are recorded, and the same artifacts are there, apart from the container and the
    index. -/
structure Output.SameButForOrder (first second : Output) : Prop where
  uncontested : Uncontested second.artifacts second.errors
  compiled : second.compiled.Perm first.compiled
  errors : second.errors.Perm first.errors
  artifacts : ∀ path, Container.path.same path = false → Index.path.same path = false →
    second.artifacts.get? path = first.artifacts.get? path

theorem Output.ofLowered_perm {before before' : Report}
    {warnings warnings' : List (String × ValidationWarning)}
    (modelled : ∀ l ∈ lowered, (l.toUnit config.messaging).IsModelled)
    (given : ∀ l ∈ lowered, l.source.contents = none)
    (distinct : (lowered.map fun l => l.source.id).Nodup) (perm : lowered'.Perm lowered)
    (sameBefore : before'.Perm before)
    (uncontested : Uncontested (Output.ofLowered tools config lowered before warnings).artifacts
      (Output.ofLowered tools config lowered before warnings).errors) :
    (Output.ofLowered tools config lowered before warnings).SameButForOrder
      (Output.ofLowered tools config lowered' before' warnings') := by
  have modelled' : ∀ l ∈ lowered', (l.toUnit config.messaging).IsModelled :=
    fun l member => modelled l (perm.mem_iff.1 member)
  have given' : ∀ l ∈ lowered', l.source.contents = none :=
    fun l member => given l (perm.mem_iff.1 member)
  rw [Output.artifacts_ofLowered given] at uncontested
  -- The container and the index are at places of their own, so the sources alone are uncontested.
  have alone : Uncontested (Progress.ofLowered tools config lowered).artifacts
      (Progress.ofLowered tools config lowered).errors := by
    constructor
    · rw [← Progress.dropped_indexed (Progress.housed_ofLowered modelled).held]
      exact uncontested.dropped
    · exact fun r member => uncontested.collisions r (List.mem_append_right _ member)
  obtain ⟨alone', compiled, errors, same⟩ := Progress.ofLowered_perm distinct perm alone
  have allErrors : (Output.ofLowered tools config lowered' before' warnings').errors.Perm
      (Output.ofLowered tools config lowered before warnings).errors := sameBefore.append errors
  refine ⟨⟨?_, ?_⟩, compiled.map _, allErrors, ?_⟩
  · rw [Output.artifacts_ofLowered given',
      Progress.dropped_indexed (Progress.housed_ofLowered modelled').held]
    exact alone'.dropped
  · exact fun r member => uncontested.collisions r (allErrors.mem_iff.1 member)
  · intro path notContainer notIndex
    rw [Output.artifacts_ofLowered given, Output.artifacts_ofLowered given',
      Progress.get?_indexed notContainer notIndex,
      Progress.get?_indexed notContainer notIndex, same]

end Lowered

namespace Batch

variable {tools : Toolchain} {config : Config}

/-- The same members in another order are lowered, or fail to be, as they were. -/
theorem lowered_perm (tools : Toolchain) (config : Config) {b b' : Batch}
    (perm : b'.members.Perm b.members) :
    (b'.lowered tools config).1.Perm (b.lowered tools config).1 ∧
      (b'.lowered tools config).2.Perm (b.lowered tools config).2 := by
  have modelled : (b'.modelled config).Perm (b.modelled config) := perm.map _
  have executables : (b'.executables tools.lower config).Perm (b.executables tools.lower config) :=
    (modelled.filterMap _).map _
  rw [lowered_eq, lowered_eq]
  exact ⟨executables.filterMap _, (modelled.filterMap _).append (executables.filterMap _)⟩

theorem compile_perm_members {b b' : Batch} (given : ∀ c ∈ b.members, c.contents = none)
    (distinct : (b.members.map Collected.id).Nodup) (members : b'.members.Perm b.members)
    (errors : b'.errors.Perm b.errors)
    (uncontested : Uncontested (b.compile tools config).artifacts (b.compile tools config).errors) :
    (b.compile tools config).SameButForOrder (b'.compile tools config) := by
  obtain ⟨lowered, failed⟩ := lowered_perm tools config members
  rw [compile_eq_ofLowered] at uncontested ⊢
  exact Output.ofLowered_perm (fun l member => isModelled_of_mem_lowered member)
    (fun l member => given _ (source_of_mem_lowered member))
    ((lowered_ids_sublist tools).nodup distinct) lowered (errors.append failed) uncontested

/-- Validation accepts and refuses the same definitions in any order. -/
theorem ofGathered_perm (usePlaceholder : Bool) {g g' : Gathered}
    (definitions : g'.definitions.Perm g.definitions) (errors : g'.errors.Perm g.errors) :
    (ofGathered usePlaceholder g').members.Perm (ofGathered usePlaceholder g).members ∧
      (ofGathered usePlaceholder g').errors.Perm (ofGathered usePlaceholder g).errors := by
  have accepted : (wellFormed g').Perm (wellFormed g) := definitions.filter _
  have refused : (illFormed g').Perm (illFormed g) := (definitions.map _).filterMap _
  refine ⟨?_, errors.append refused⟩
  rw [members_ofGathered, members_ofGathered, accepted.isEmpty_eq]
  split
  · exact .refl _
  · exact accepted

end Batch

namespace Gathered

variable (parsers : List ResourceParser) (given : List Definition)

theorem unlabelled_ofGiven :
    (ofInput parsers given []).unlabelled.definitions = given.map Collected.bare := by
  rw [unlabelled_ofInput]
  simp

theorem ids_ofGiven :
    (ofInput parsers given []).definitions.map Collected.id = given.map Definition.id := by
  have unlabelled : (ofInput parsers given []).definitions.map Collected.id =
      (ofInput parsers given []).unlabelled.definitions.map Collected.id := by
    unfold Gathered.unlabelled
    rw [List.map_map]
    rfl
  rw [unlabelled, unlabelled_ofGiven, List.map_map]
  rfl

end Gathered

/-- The order of the definitions that are given does not matter, as long as no place is contested:
    any other order has an outcome in which no place is contested either, and which differs in the
    order of its lists only. -/
theorem compile_perm (tools : Toolchain) (config : Config) (soft : config.failOnError = false)
    {given : List Definition} (distinct : (given.map Definition.id).Nodup) :
    ∃ output, compile tools config given [] = .ok output ∧
      (Uncontested output.artifacts output.errors →
        ∀ given', given'.Perm given →
          ∃ output', compile tools config given' [] = .ok output' ∧
            output.SameButForOrder output') := by
  -- Where a definition stands in the list shows in its label only, and labels have no part in the
  -- outcome.
  have run (ds : List Definition) (nodup : (ds.map Definition.id).Nodup) :
      compile tools config ds [] =
        .ok ((Batch.ofGathered config.emitPlaceholderWhenEmpty
          (Gathered.ofInput tools.parsers ds []).unlabelled).compile tools config) := by
    rw [← Gathered.ids_ofGiven tools.parsers] at nodup
    rw [compile_of_nodup soft nodup, Batch.compile_unlabelled]
  refine ⟨_, run given distinct, ?_⟩
  intro uncontested given' perm
  have distinct' : (given'.map Definition.id).Nodup := (perm.map Definition.id).nodup_iff.2 distinct
  refine ⟨_, run given' distinct', ?_⟩
  have definitions : (Gathered.ofInput tools.parsers given' []).unlabelled.definitions.Perm
      (Gathered.ofInput tools.parsers given []).unlabelled.definitions := by
    rw [Gathered.unlabelled_ofGiven, Gathered.unlabelled_ofGiven]
    exact perm.map Collected.bare
  obtain ⟨members, errors⟩ :=
    Batch.ofGathered_perm config.emitPlaceholderWhenEmpty definitions (.refl _)
  refine Batch.compile_perm_members ?_ (Batch.nodup_members_ofGathered ?_) members
    errors uncontested
  · intro c member
    rcases Batch.mem_members_ofGathered member with rfl | ⟨collected, -⟩
    · rfl
    · rw [Gathered.unlabelled_ofGiven] at collected
      obtain ⟨d, -, rfl⟩ := List.mem_map.1 collected
      rfl
  · rw [Gathered.unlabelled_ofGiven, List.map_map]
    exact distinct

/-- A process and the one that it calls, given in either order. -/
theorem compile_perm_pair :
    ∃ output output', compile (.ofConfig { failOnError := false }) { failOnError := false }
        callingPair [] = .ok output ∧
      compile (.ofConfig { failOnError := false }) { failOnError := false } callingPair.reverse [] =
        .ok output' ∧
      output.compiled = ["a", "b"] ∧ output.SameButForOrder output' := by
  have distinct : (callingPair.map Definition.id).Nodup := by decide
  have run : compile (.ofConfig { failOnError := false }) { failOnError := false } callingPair [] =
      .ok _ := compile_of_nodup rfl (by decide)
  obtain ⟨output, first, reordered⟩ := compile_perm (.ofConfig { failOnError := false })
    { failOnError := false } rfl distinct
  obtain rfl := Except.ok.inj (run.symm.trans first)
  have facts :
      let output := (Batch.ofGathered false (Gathered.ofInput [.json] callingPair [])).compile
        (.ofConfig { failOnError := false }) { failOnError := false }
      output.artifacts.dropped = [] ∧ output.errors = [] ∧ output.compiled = ["a", "b"] := by
    decide +kernel
  obtain ⟨nothingDropped, noErrors, compiled⟩ := facts
  obtain ⟨output', second, same⟩ := reordered
    ⟨nothingDropped, fun r member => absurd (noErrors ▸ member) (List.not_mem_nil)⟩
    callingPair.reverse callingPair.reverse_perm
  exact ⟨_, output', run, second, compiled, same⟩

end Flowsmith

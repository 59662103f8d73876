import Flowsmith.Proofs.Stages

/-!
How a compilation ends. A shared id ends it before anything else is looked at, and it is the first
one that is reported; otherwise there is an outcome, and whether its failures are fatal changes
nothing but the verdict.
-/

namespace Flowsmith

/-- A definition that was found, whether or not it is well-formed. -/
structure Occurrence where
  id : String
  /-- The resource that it was found in, or a label when there is none. -/
  origin : String
deriving DecidableEq, Repr

/-- The definitions of a batch: those that are given, then those of the resources that can be
    read. -/
def occurrences (parsers : List ResourceParser) (given : List Definition)
    (resources : List Resource) :
    List Occurrence :=
  given.mapIdx (fun i d => ⟨d.id, d.resource.getD s!"<process #{i}>"⟩) ++
    resources.flatMap fun r =>
      match ResourceParser.read parsers r with
      | .ok ds => ds.map fun d => ⟨d.id, r.path⟩
      | .error _ => []

theorem Occurrence.id_ne_of_nodup {found : List Occurrence}
    (distinct : (found.map id).Nodup) {i j : Nat}
    (earlier : i < j) {a b : Occurrence} (first : found[i]? = some a)
    (second : found[j]? = some b) :
    a.id ≠ b.id := by
  intro same
  have inRange : j < found.length := (List.getElem?_eq_some_iff.1 second).1
  have positions : (found.map id)[i]? = (found.map id)[j]? := by
    rw [List.getElem?_map, List.getElem?_map, first, second]
    exact congrArg some same
  have equal : i = j := (List.getElem?_inj (by simp; omega) distinct).1 positions
  omega

/-- The id at position `j` is that at the earlier position `i`, and no position before `j` repeats
    an id. -/
structure FirstRepeat (found : List Occurrence) (d : DuplicateId) (i j : Nat) : Prop where
  earlier : i < j
  first : found[i]? = some ⟨d.id, d.first⟩
  second : found[j]? = some ⟨d.id, d.second⟩
  least : ∀ k l, k < l → l < j → ∀ a b, found[k]? = some a → found[l]? = some b → a.id ≠ b.id

/-- There is one first repetition at most. -/
theorem FirstRepeat.unique {found : List Occurrence} {d d' : DuplicateId} {i j i' j' : Nat}
    (one : FirstRepeat found d i j) (other : FirstRepeat found d' i' j') : d = d' := by
  have sameEnd : j = j' := by
    rcases Nat.lt_trichotomy j j' with before | same | after
    · exact (other.least i j one.earlier before _ _ one.first one.second rfl).elim
    · exact same
    · exact (one.least i' j' other.earlier after _ _ other.first other.second rfl).elim
  subst sameEnd
  have last : (⟨d.id, d.second⟩ : Occurrence) = ⟨d'.id, d'.second⟩ :=
    Option.some.inj (one.second.symm.trans other.second)
  obtain ⟨sameId, sameSecond⟩ := Occurrence.mk.inj last
  have sameStart : i = i' := by
    rcases Nat.lt_trichotomy i i' with before | same | after
    · exact absurd sameId (one.least i i' before other.earlier _ _ one.first other.first)
    · exact same
    · exact absurd sameId.symm (one.least i' i after one.earlier _ _ other.first one.first)
  subst sameStart
  have start : (⟨d.id, d.first⟩ : Occurrence) = ⟨d'.id, d'.first⟩ :=
    Option.some.inj (one.first.symm.trans other.first)
  obtain ⟨-, sameFirst⟩ := Occurrence.mk.inj start
  cases d
  cases d'
  simp_all

theorem FirstRepeat.not_nodup {found : List Occurrence} {d : DuplicateId} {i j : Nat}
    (repeated : FirstRepeat found d i j) : ¬ (found.map Occurrence.id).Nodup := by
  intro distinct
  exact Occurrence.id_ne_of_nodup distinct repeated.earlier repeated.first repeated.second rfl

namespace Collected

def occurrence (c : Collected) : Occurrence :=
  ⟨c.id, c.origin⟩

/-- What is reported after some definitions of distinct ids is the first repetition. -/
theorem firstRepeat_of_duplicateAfter? {before cs : List Collected} {d : DuplicateId}
    (distinct : (before.map id).Nodup) (reported : duplicateAfter? before cs = some d) :
    ∃ i j, FirstRepeat ((before ++ cs).map occurrence) d i j := by
  induction cs generalizing before with
  | nil => simp [duplicateAfter?] at reported
  | cons c rest ih =>
      unfold duplicateAfter? at reported
      cases found : before.find? (fun b => b.id == c.id) with
      | some first =>
          rw [found] at reported
          have isReport : (⟨c.id, first.origin, c.origin⟩ : DuplicateId) = d :=
            Option.some.inj reported
          have sameId : first.id = c.id := by simpa using List.find?_some found
          obtain ⟨i, inRange, isFirst⟩ := List.getElem_of_mem (List.mem_of_find?_eq_some found)
          refine ⟨i, before.length, inRange, ?_, ?_, ?_⟩
          · rw [← isReport, List.getElem?_map, List.getElem?_append_left inRange,
              List.getElem?_eq_getElem inRange, isFirst]
            simp [occurrence, sameId]
          · rw [← isReport, List.getElem?_map, List.getElem?_append_right (Nat.le_refl _)]
            simp [occurrence]
          · -- All positions before this one are among those of distinct ids.
            intro k l ordered inside a b isA isB
            rw [List.map_append, List.getElem?_append_left (by simp; omega)] at isA isB
            have apart : ((before.map occurrence).map Occurrence.id).Nodup := by
              rw [List.map_map]
              exact distinct
            exact Occurrence.id_ne_of_nodup apart ordered isA isB
      | none =>
          rw [found] at reported
          have fresh : ∀ b ∈ before, b.id ≠ c.id := by simpa using found
          have distinctNext : ((before ++ [c]).map id).Nodup := by
            rw [List.map_append]
            exact List.nodup_append.2 ⟨distinct, by simp, by simpa using fresh⟩
          simpa using ih distinctNext reported

theorem firstRepeat_of_duplicate? {cs : List Collected} {d : DuplicateId}
    (reported : duplicate? cs = some d) :
    ∃ i j, FirstRepeat (cs.map occurrence) d i j := by
  have distinct : (([] : List Collected).map id).Nodup := List.nodup_nil
  exact firstRepeat_of_duplicateAfter? distinct reported

/-- What is reported depends on ids and origins only. -/
theorem duplicate?_congr {cs ds : List Collected} (same : ds.map occurrence = cs.map occurrence) :
    duplicate? ds = duplicate? cs := by
  have ids : ds.map id = cs.map id := by
    have projected := congrArg (List.map Occurrence.id) same
    rw [List.map_map, List.map_map] at projected
    exact projected
  cases first : duplicate? cs with
  | none =>
      rw [duplicate?_eq_none_iff] at first ⊢
      rw [ids]
      exact first
  | some d =>
      obtain ⟨i, j, repeated⟩ := firstRepeat_of_duplicate? first
      cases second : duplicate? ds with
      | none =>
          rw [duplicate?_eq_none_iff, ids, ← duplicate?_eq_none_iff, first] at second
          exact absurd second (by simp)
      | some e =>
          obtain ⟨k, l, repeatedToo⟩ := firstRepeat_of_duplicate? second
          rw [same] at repeatedToo
          rw [repeatedToo.unique repeated]

end Collected

theorem Gathered.map_occurrence {parsers : List ResourceParser} {given : List Definition}
    {resources : List Resource} :
    (ofInput parsers given resources).definitions.map Collected.occurrence =
      occurrences parsers given resources := by
  have models : (given.mapIdx Collected.ofGiven).map Collected.occurrence =
      given.mapIdx fun i d => ⟨d.id, d.resource.getD s!"<process #{i}>"⟩ := by
    rw [List.mapIdx_eq_zipIdx_map, List.map_map, List.mapIdx_eq_zipIdx_map]
    rfl
  have read : ∀ r : Resource, (ofResource parsers r).definitions.map Collected.occurrence =
      match ResourceParser.read parsers r with
      | .ok ds => ds.map fun d => ⟨d.id, r.path⟩
      | .error _ => [] := by
    intro r
    unfold ofResource
    cases ResourceParser.read parsers r with
    | error e => rfl
    | ok ds => simp [Collected.ofResource, Collected.occurrence, Collected.id, Function.comp_def]
  simp only [ofInput, occurrences, List.map_append, models, List.flatMap_map, List.map_flatMap,
    read]

section Fatality

/-! Nothing of a compilation looks at whether failures are fatal. -/

variable (fatal : Bool) (press : Press) {u : ProcessUnit} {tools : Toolchain} {config : Config}

theorem Press.coreArtifacts_failOnError :
    coreArtifacts { press with config := { press.config with failOnError := fatal } } u =
      press.coreArtifacts u := rfl

theorem Press.optionalArtifacts_failOnError :
    optionalArtifacts { press with config := { press.config with failOnError := fatal } } u =
      press.optionalArtifacts u := rfl

theorem Progress.add_failOnError (p : Progress) :
    p.add { press with config := { press.config with failOnError := fatal } } u =
      p.add press u := by
  unfold add accept
  rw [Press.coreArtifacts_failOnError]
  simp only [Press.optionalArtifacts_failOnError]

theorem Progress.ofLowered_failOnError (lowered : List Lowered) :
    ofLowered tools { config with failOnError := fatal } lowered =
      ofLowered tools config lowered := by
  have step : add (Press.ofLowered tools { config with failOnError := fatal } lowered) =
      add (Press.ofLowered tools config lowered) := by
    funext p u
    exact p.add_failOnError fatal (.ofLowered tools config lowered)
  unfold ofLowered
  rw [step]

theorem Batch.compile_failOnError (b : Batch) :
    b.compile tools { config with failOnError := fatal } = b.compile tools config := by
  have lowered : b.lowered tools { config with failOnError := fatal } = b.lowered tools config :=
    rfl
  simp only [compile, lowered, Progress.ofLowered_failOnError]

end Fatality

section Verdict

variable {tools : Toolchain} {config : Config} {given : List Definition} {resources : List Resource}

theorem Batch.collect_eq_error_iff {parsers : List ResourceParser} {usePlaceholder : Bool}
    {d : DuplicateId} :
    collect parsers usePlaceholder given resources = .error d ↔
      Collected.duplicate? (Gathered.ofInput parsers given resources).definitions = some d := by
  simp only [collect]
  cases Collected.duplicate? (Gathered.ofInput parsers given resources).definitions <;> simp

/-- A run ends with a shared id exactly when collecting does. -/
theorem compile_eq_duplicateId_iff {d : DuplicateId} :
    compile tools config given resources = .error (.duplicateId d) ↔
      Collected.duplicate? (Gathered.ofInput tools.parsers given resources).definitions =
        some d := by
  rw [← Batch.collect_eq_error_iff]
  unfold compile compileSoftly
  cases Batch.collect tools.parsers config.emitPlaceholderWhenEmpty given resources with
  | error found => simp
  | ok batch =>
      simp only [Output.verdict]
      split <;> simp

/-- Where no id is shared, the outcome is the same whether or not failures are fatal. -/
theorem compile_failOnError (fatal : Bool)
    (distinct : ((Gathered.ofInput tools.parsers given resources).definitions.map
      Collected.id).Nodup) :
    compile tools { config with failOnError := fatal } given resources =
      ((Batch.ofGathered config.emitPlaceholderWhenEmpty
        (Gathered.ofInput tools.parsers given resources)).compile tools config).verdict
          { config with failOnError := fatal } := by
  rw [compile_eq_verdict distinct, Batch.compile_failOnError]

end Verdict

/-- A run ends with a shared id exactly when there is one, and then reports the first repetition and
    where both definitions come from. Otherwise there is an outcome, and if failures are fatal it is
    given up for its report exactly when that is not empty. -/
theorem outcome_of_compile (tools : Toolchain) (config : Config) (given : List Definition)
    (resources : List Resource) :
    ((∃ d, compile tools config given resources = .error (.duplicateId d)) ↔
      ¬ ((occurrences tools.parsers given resources).map Occurrence.id).Nodup) ∧
    (∀ d, compile tools config given resources = .error (.duplicateId d) ↔
      ∃ i j, FirstRepeat (occurrences tools.parsers given resources) d i j) ∧
    (((occurrences tools.parsers given resources).map Occurrence.id).Nodup →
      ∃ output, compile tools { config with failOnError := false } given resources = .ok output ∧
        compile tools { config with failOnError := true } given resources =
          if output.errors = [] then .ok output else .error (.failed output.errors)) := by
  have ids : (occurrences tools.parsers given resources).map Occurrence.id =
      (Gathered.ofInput tools.parsers given resources).definitions.map Collected.id := by
    rw [← Gathered.map_occurrence, List.map_map]
    rfl
  have reported : ∀ d, compile tools config given resources = .error (.duplicateId d) →
      ∃ i j, FirstRepeat (occurrences tools.parsers given resources) d i j := by
    intro d run
    rw [← Gathered.map_occurrence]
    exact Collected.firstRepeat_of_duplicate? (compile_eq_duplicateId_iff.1 run)
  have shared : (∃ d, compile tools config given resources = .error (.duplicateId d)) ↔
      ¬ ((occurrences tools.parsers given resources).map Occurrence.id).Nodup := by
    rw [ids, ← Collected.duplicate?_eq_none_iff]
    simp only [compile_eq_duplicateId_iff, ← Option.isSome_iff_exists, ← Option.isSome_iff_ne_none]
  refine ⟨shared, ?_, ?_⟩
  · intro d
    refine ⟨reported d, ?_⟩
    rintro ⟨i, j, repeated⟩
    obtain ⟨d', run⟩ := shared.2 repeated.not_nodup
    obtain ⟨i', j', first⟩ := reported d' run
    rwa [repeated.unique first]
  · intro distinct
    rw [ids] at distinct
    refine ⟨_, compile_failOnError false distinct, ?_⟩
    rw [compile_failOnError true distinct]
    simp [Output.verdict]

end Flowsmith

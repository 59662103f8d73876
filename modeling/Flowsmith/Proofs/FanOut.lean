import Flowsmith.Proofs.Dictionaries
import Flowsmith.Proofs.Places

/-!
The sources of processes, put together one process after the other, under the built-in engine. A
step says what the sources of one process can come to; what holds after all of them follows from
what a step keeps.
-/

namespace Flowsmith

namespace Press

variable {press : Press} {u : ProcessUnit} {core : List Artifact}

/-- The core of a process is made exactly when each process that it calls can be called. -/
theorem exists_coreArtifacts_iff (builtin : press.engine = .builtin) :
    (∃ core, press.coreArtifacts u = .ok core) ↔
      ∀ child, (u.executable.subProcesses.fields.get? child).isSome = true →
        (press.callable.get? child).isSome = true := by
  have fields : (∃ core, press.coreArtifacts u = .ok core) ↔
      ∃ called, press.calledFields u = .ok called := by
    rw [coreArtifacts_builtin builtin]
    cases press.calledFields u <;> simp [Except.map]
  have each : ∀ entry, (∃ f, press.subProcessField u entry = .ok f) ↔
      (press.callable.get? entry.1).isSome = true := by
    rintro ⟨child, name⟩
    unfold subProcessField
    cases callable : press.callable.get? child <;> simp [callable]
  rw [fields, calledFields, exists_mapM_eq_ok_iff]
  constructor
  · intro all child calls
    obtain ⟨name, member⟩ := (Dict.isSome_get?_iff _ child).1 calls
    exact (each (child, name)).1 (all (child, name) member)
  · rintro all ⟨child, name⟩ member
    exact (each (child, name)).2 (all child ((Dict.isSome_get?_iff _ child).2 ⟨name, member⟩))

/-- A core that is not made lacks a process that is called. -/
theorem unknown_of_coreArtifacts_error (builtin : press.engine = .builtin) {failure : Failure}
    (unmade : press.coreArtifacts u = .error failure) :
    ∃ node child, failure = .unknownSubProcess node child := by
  rw [coreArtifacts_builtin builtin] at unmade
  cases fields : press.calledFields u with
  | ok called => simp [fields, Except.map] at unmade
  | error cause =>
      obtain rfl : cause = failure := by simpa [fields, Except.map] using unmade
      exact unknown_of_calledFields_error fields

/-- A core that is made consists of sheets. -/
theorem exists_coreSheets (builtin : press.engine = .builtin)
    (made : press.coreArtifacts u = .ok core) :
    ∃ called, press.calledFields u = .ok called ∧
      core = (press.coreSheets u called).map (Sheet.artifact u.names) := by
  rw [coreArtifacts_builtin builtin] at made
  cases fields : press.calledFields u with
  | error cause => simp [fields, Except.map] at made
  | ok called => exact ⟨called, rfl, by simpa [fields, Except.map, eq_comm] using made⟩

end Press

/-- An artifact that is a source of a process: one of its sheets, once the called processes have
    fields. -/
def Press.IsSource (press : Press) (u : ProcessUnit) (a : Artifact) : Prop :=
  ∃ called, press.calledFields u = .ok called ∧
    ∃ s ∈ press.coreSheets u called ++ press.optionalSheets u, a = s.artifact u.names

theorem Press.IsSource.generatedFor {press : Press} {u : ProcessUnit} {a : Artifact}
    (source : press.IsSource u a) : a.GeneratedFor u.definition.id := by
  obtain ⟨called, -, s, inSheets, rfl⟩ := source
  rcases List.mem_append.1 inSheets with inCore | inOptional
  · exact (isSheetOf_of_mem_coreSheets inCore).generatedFor _
  · exact (isSheetOf_of_mem_optionalSheets inOptional).generatedFor _

namespace Progress

variable {press : Press}

/-- What holds once some processes are done. -/
structure Sound (press : Press) (done : List ProcessUnit) (p : Progress) : Prop where
  /-- The compiled processes come in the order in which they were done. -/
  order : p.compiled.Sublist done
  /-- The core of a compiled process is in the set as it was made. -/
  held : ∀ u ∈ p.compiled, ∃ core, press.coreArtifacts u = .ok core ∧
    ∀ a ∈ core, p.artifacts.get? a.path = some a
  /-- The set holds nothing but sources of compiled processes. -/
  origin : ∀ a ∈ p.artifacts.artifacts, ∃ u ∈ p.compiled, press.IsSource u a
  /-- Each process that is done is compiled or has a record. -/
  accounted : (p.compiled.map (fun u => some u.definition.id) ++
    p.errors.map ErrorRecord.processId).Perm (done.map fun u => some u.definition.id)
  /-- The records are about called processes and about places. -/
  kinds : ∀ r ∈ p.errors, (∃ node child, r.failure = .unknownSubProcess node child) ∨
    ∃ path, r.failure = .pathCollision path
  /-- A process that is done but not compiled has no core, or one that meets a source of a compiled
      process. -/
  rejected : ∀ u ∈ done, u.definition.id ∉ p.compiled.map (fun v => v.definition.id) →
    ∀ core, press.coreArtifacts u = .ok core →
      ∃ taken ∈ core, ∃ held, p.artifacts.get? taken.path = some held ∧
        ∃ v ∈ p.compiled, press.IsSource v held

variable {done : List ProcessUnit} {p q : Progress} {u : ProcessUnit}

theorem sound_start : Sound press [] {} where
  order := .refl _
  held _ member := absurd member (List.not_mem_nil)
  origin _ member := absurd member (List.not_mem_nil)
  accounted := .refl _
  kinds _ member := absurd member (List.not_mem_nil)
  rejected _ member := absurd member (List.not_mem_nil)

/-- A failure that is noted keeps all else as it is. -/
theorem Sound.fail (sound : Sound press done p) {failure : Failure}
    (kind : (∃ node child, failure = .unknownSubProcess node child) ∨
      ∃ path, failure = .pathCollision path)
    (reason : ∀ core, press.coreArtifacts u = .ok core →
      ∃ taken ∈ core, ∃ held, p.artifacts.get? taken.path = some held ∧
        ∃ v ∈ p.compiled, press.IsSource v held) :
    Sound press (done ++ [u]) (p.fail u failure) where
  order := sound.order.trans (List.sublist_append_left _ _)
  held := sound.held
  origin := sound.origin
  accounted := by
    simp only [Progress.fail, List.map_append, List.map_cons, List.map_nil, ← List.append_assoc]
    exact sound.accounted.append_right _
  kinds r member := by
    rcases List.mem_append.1 member with before | now
    · exact sound.kinds r before
    · obtain rfl := List.mem_singleton.1 now
      exact kind
  rejected v member absent := by
    rcases List.mem_append.1 member with before | now
    · exact sound.rejected v before absent
    · obtain rfl := List.mem_singleton.1 now
      exact reason

/-- The sources of a process that is accepted are added to those that are there. -/
theorem Sound.accept (builtin : press.engine = .builtin) (modelled : u.IsModelled)
    (sound : Sound press done p) {core : List Artifact} (made : press.coreArtifacts u = .ok core)
    (free : ∀ a ∈ core, p.artifacts.get? a.path = none) :
    Sound press (done ++ [u])
      { artifacts := p.artifacts.registerAll
          (core ++ (press.optionalSheets u).map (Sheet.artifact u.names))
        errors := p.errors
        compiled := p.compiled ++ [u] } where
  order := sound.order.append (.refl _)
  held v member := by
    rcases List.mem_append.1 member with before | now
    · obtain ⟨core', made', held⟩ := sound.held v before
      exact ⟨core', made', fun a inCore => ArtifactSet.get?_registerAll_of_get? (held a inCore) _⟩
    · obtain rfl := List.mem_singleton.1 now
      exact ⟨core, made, ArtifactSet.get?_registerAll_of_pairwise _ free
        (Press.pairwise_core modelled made)⟩
  origin a member := by
    rcases ArtifactSet.mem_registerAll member with before | now
    · obtain ⟨v, compiled, source⟩ := sound.origin a before
      exact ⟨v, List.mem_append_left _ compiled, source⟩
    · obtain ⟨called, fields, rfl⟩ := Press.exists_coreSheets builtin made
      rw [← List.map_append] at now
      obtain ⟨s, inSheets, rfl⟩ := List.mem_map.1 now
      exact ⟨u, by simp, called, fields, s, inSheets, rfl⟩
  accounted := by
    simp only [List.map_append, List.map_cons, List.map_nil, List.append_assoc]
    have later : ([some u.definition.id] ++ p.errors.map ErrorRecord.processId).Perm
        (p.errors.map ErrorRecord.processId ++ [some u.definition.id]) := List.perm_append_comm
    refine (later.append_left _).trans ?_
    rw [← List.append_assoc]
    exact sound.accounted.append_right _
  kinds := sound.kinds
  rejected v member absent core' made' := by
    simp only [List.map_append, List.mem_append, not_or] at absent
    -- What was met before is still there, for nothing is ever replaced in the set.
    rcases List.mem_append.1 member with before | now
    · obtain ⟨taken, inCore, held, found, w, compiled, source⟩ :=
        sound.rejected v before absent.1 core' made'
      exact ⟨taken, inCore, held, ArtifactSet.get?_registerAll_of_get? found _, w,
        List.mem_append_left _ compiled, source⟩
    · obtain rfl := List.mem_singleton.1 now
      exact absurd (by simp) absent.2

theorem Sound.step (builtin : press.engine = .builtin) (modelled : u.IsModelled)
    (sound : Sound press done p) (addition : Addition press p u q) :
    Sound press (done ++ [u]) q := by
  cases addition with
  | unmade cause =>
      refine sound.fail (.inl (Press.unknown_of_coreArtifacts_error builtin cause)) ?_
      intro core made
      rw [cause] at made
      exact absurd made (by simp)
  | collided made member met =>
      refine sound.fail (.inr ⟨_, rfl⟩) ?_
      rintro core' made'
      obtain rfl : _ = core' := Except.ok.inj (made.symm.trans made')
      obtain ⟨held, found⟩ := Option.isSome_iff_exists.1 met
      exact ⟨_, member, held, found, sound.origin held (ArtifactSet.mem_of_get? found)⟩
  | accepted made free =>
      -- All pages render, so nothing is noted and all that is optional is there.
      simp only [Press.optionalArtifacts_builtin builtin, successes_map_ok, failures_map_ok,
        List.map_nil, List.append_nil]
      exact sound.accept builtin modelled made free

theorem sound_run (builtin : press.engine = .builtin) {units : List ProcessUnit}
    (modelled : ∀ u ∈ units, u.IsModelled) : Sound press units (units.foldl (add press) {}) :=
  fold_induction units sound_start fun _ _ u _ member sound addition =>
    sound.step builtin (modelled u member) addition

section Whole

/-! The container, the index and the copies are added to the sources. -/

variable {injection : Injection} {channel : List ChannelWarning}
  {validation : List (String × ValidationWarning)}

/-- All that is generated for a process is a source of it. -/
theorem mem_artifacts_of_generatedFor {a : Artifact} {id : String}
    (member : a ∈ (p.allArtifacts injection channel validation).artifacts)
    (generated : a.GeneratedFor id) : a ∈ p.artifacts.artifacts := by
  rcases mem_allArtifacts member with source | rfl | rfl | ⟨v, -, isCopy⟩
  · exact source
  · exact absurd generated (Artifact.container_not_generatedFor _ _ id)
  · exact absurd generated (Artifact.index_not_generatedFor _ id)
  · obtain ⟨contents, -, rfl⟩ := Option.map_eq_some_iff.1 isCopy
    exact absurd generated (Artifact.copy_not_generatedFor _ _ _ id)

end Whole

end Progress

end Flowsmith

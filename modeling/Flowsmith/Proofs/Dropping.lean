import Flowsmith.Proofs.Containment
import Flowsmith.Proofs.IndexText

/-!
What can be lost. The core of a process comes where nothing is, or the process is not compiled; the
container, the index and the copies have places that nothing else is at. So only what a process has
beyond its core ever comes too late for its path, and the warnings of the index, which are taken
before the copies are made, are all that there are.
-/

namespace Flowsmith

/-- What a process may have beyond its core. -/
def Category.IsOptional (c : Category) : Prop :=
  c = .rest ∨ c = .messageConsumer ∨ c = .messageProducer

namespace Press

/-- All that is made beyond the core is optional. -/
theorem isOptional_of_mem_optionalArtifacts {press : Press} {u : ProcessUnit} {a : Artifact}
    (made : .ok a ∈ press.optionalArtifacts u) : a.category.IsOptional := by
  rcases mem_optionalArtifacts.1 made with ⟨-, one⟩ | ⟨t, -, one⟩ | ⟨t, -, one⟩
  · exact .inl (category_of_artifact one.symm)
  · exact .inr (.inl (category_of_artifact one.symm))
  · exact .inr (.inr (category_of_artifact one.symm))

end Press

namespace Progress

variable {press : Press} {p q : Progress} {u : ProcessUnit}

/-- Nothing but optional artifacts has been dropped. -/
def DropsOptional (p : Progress) : Prop :=
  ∀ d ∈ p.artifacts.dropped, d.dropped.IsOptional

/-- A core that is added is not dropped, for it is made of artifacts at free places apart from one
    another. -/
theorem DropsOptional.step (modelled : u.IsModelled) (drops : p.DropsOptional)
    (addition : Addition press p u q) : q.DropsOptional := by
  cases addition with
  | unmade cause => exact drops
  | collided made member met => exact drops
  | @accepted core made free =>
      -- The core adds no note, so all that are new are about what comes after it.
      have kept : (p.artifacts.registerAll core).dropped = p.artifacts.dropped :=
        (ArtifactSet.dropped_registerAll_eq_iff _ _).2 ⟨free, Press.pairwise_core modelled made⟩
      intro d member
      rw [ArtifactSet.registerAll, List.foldl_append] at member
      rcases ArtifactSet.mem_dropped_registerAll member with before | ⟨a, optional, -, category⟩
      · exact drops d (kept ▸ before)
      · rw [category]
        exact Press.isOptional_of_mem_optionalArtifacts (mem_successes.1 optional)

theorem dropsOptional_ofLowered {tools : Toolchain} {config : Config} {lowered : List Lowered}
    (modelled : ∀ l ∈ lowered, (l.toUnit config.messaging).IsModelled) :
    (ofLowered tools config lowered).DropsOptional := by
  refine fold_induction (motive := fun _ p => p.DropsOptional) _ ?_ ?_
  · intro d member
    exact absurd member (List.not_mem_nil)
  · intro done p u q member drops addition
    obtain ⟨l, inLowered, rfl⟩ := List.mem_map.1 member
    exact drops.step (modelled l inLowered) addition

end Progress

namespace Path

/-- No resource that is read as JSON has the name of a source. -/
theorem fileName?_ne_of_hasJsonExtension {resource : String}
    (accepted : Resource.hasJsonExtension resource = true) (stem : String) :
    fileName? ⟨resource⟩ ≠ some (stem ++ "." ++ "rs") := by
  intro isName
  have pieces : (stem ++ "." ++ "rs").toList.splitOn '.' =
      stem.toList.splitOn '.' ++ [['r', 's']] := by
    have text : (stem ++ "." ++ "rs").toList = stem.toList ++ '.' :: ['r', 's'] := by simp
    rw [text, List.splitOn_append_cons_self]
    rfl
  obtain ⟨extension, found, isJson⟩ := (Option.any_eq_true _ _).1 accepted
  simp only [extension?, isName, pieces, Option.bind_eq_bind, Option.bind_some,
    Option.ite_none_left_eq_some, List.getLast?_concat, Option.map_some, Option.some.injEq] at found
  obtain ⟨-, -, rfl⟩ := found
  exact absurd isJson (by decide)

namespace IsCopy

variable {p q : Path}

/-- The place of a copy is below the directory of all copies, by the name of the resource. -/
theorem components_eq (copy : p.IsCopy) :
    ∃ package resource name, Resource.hasJsonExtension resource = true ∧
      fileName? ⟨resource⟩ = some name ∧
      p.components = .name "resources" :: ((packageDir package).components ++ [.name name]) := by
  obtain ⟨package, resource, plain, accepted, place⟩ := copy
  obtain ⟨name, isName⟩ := Option.isSome_iff_exists.1 (Resource.isSome_fileName? accepted)
  refine ⟨package, resource, name, accepted, isName, ?_⟩
  rw [place, resourceCopyPath, isName, Option.getD_some,
    components_join (isFileName_of_fileName? isName), components_join_text _ plain.descends.isInner,
    components_fileName (by decide)]
  simp

/-- No copy is at a place of a single step. -/
theorem not_same_of_components (copy : p.IsCopy) {step : Component}
    (single : q.components = [step]) :
    q.same p = false := by
  rw [Bool.eq_false_iff, ne_eq, same_iff]
  obtain ⟨package, resource, name, -, -, components⟩ := copy.components_eq
  intro equal
  rw [single, components] at equal
  have length := congrArg List.length equal
  simp at length

/-- No copy is at the file of a type. -/
theorem not_classFile (copy : p.IsCopy) (file : q.IsClassFile) : q.same p = false := by
  rw [Bool.eq_false_iff, ne_eq, same_iff]
  obtain ⟨package, resource, name, accepted, isName, components⟩ := copy.components_eq
  obtain ⟨n, className, -, place⟩ := file
  intro equal
  -- Packages may be called like the directory of all copies, so it is the last step that tells the
  -- two apart.
  rw [place, Names.components_classPath, components, ← List.cons_append] at equal
  have last := List.append_inj_right' equal (by simp only [List.length_singleton])
  rw [← Component.name.inj (List.singleton_inj.1 last)] at isName
  exact fileName?_ne_of_hasJsonExtension accepted _ isName

end IsCopy

end Path

/-- Leaving out what comes too late for its place leaves places that are apart from one another. -/
theorem pairwise_distinctByPath (before : List Path) (as : List Artifact) :
    (distinctByPath before as).Pairwise (fun a b => a.path.same b.path = false) ∧
      ∀ a ∈ distinctByPath before as, ∀ b ∈ before, b.same a.path = false := by
  induction as generalizing before with
  | nil => simp [distinctByPath]
  | cons head rest ih =>
      unfold distinctByPath
      split
      · exact ih before
      · rename_i fresh
        obtain ⟨apart, later⟩ := ih (before ++ [head.path])
        constructor
        · refine List.pairwise_cons.2 ⟨?_, apart⟩
          intro a member
          exact later a member head.path (by simp)
        · intro a member b inBefore
          rcases List.mem_cons.1 member with rfl | inRest
          · rw [Bool.eq_false_iff]
            intro met
            exact fresh (List.any_eq_true.2 ⟨b, inBefore, Path.same_symm met⟩)
          · exact later a inRest b (List.mem_append_left _ inBefore)

namespace Progress

variable {p : Progress} {injection : Injection} {channel : List ChannelWarning}
  {validation : List (String × ValidationWarning)}

/-- The container, the index and the copies are not dropped. -/
theorem dropped_allArtifacts (housed : p.Housed)
    (copies : ∀ u ∈ p.compiled, ∀ a, u.copy? = some a → a.path.IsCopy) :
    (p.allArtifacts injection channel validation).dropped = p.artifacts.dropped := by
  have free : ∀ a ∈ p.copies, (p.indexed injection channel validation).get? a.path = none := by
    intro a member
    obtain ⟨u, compiled, isCopy⟩ := List.mem_filterMap.1 (mem_distinctByPath member)
    have copy := copies u compiled a isCopy
    have container : Container.path.components = [.name "processes.rs"] := by decide
    have index : Index.path.components = [.name "processes.json"] := by decide
    rw [get?_indexed (copy.not_same_of_components container) (copy.not_same_of_components index)]
    refine List.find?_eq_none.2 ?_
    intro b held
    simpa using copy.not_classFile (housed.held b held)
  have kept : ((p.indexed injection channel validation).registerAll p.copies).dropped =
      (p.indexed injection channel validation).dropped :=
    (ArtifactSet.dropped_registerAll_eq_iff _ _).2 ⟨free, (pairwise_distinctByPath [] _).1⟩
  exact kept.trans (dropped_indexed housed.held)

end Progress

namespace Batch

variable {tools : Toolchain} {config : Config} {b : Batch}

variable (copies : ∀ u ∈ (Progress.ofLowered tools config (b.lowered tools config).1).compiled,
  ∀ a, u.copy? = some a → a.path.IsCopy)

include copies

theorem dropped_compile : (b.compile tools config).artifacts.dropped =
    (Progress.ofLowered tools config (b.lowered tools config).1).artifacts.dropped :=
  Progress.dropped_allArtifacts housed_lowered copies

/-- The warnings of the index are all that there are: none is added after it is made. -/
theorem field?_warnings_index :
    (b.index tools config).toJson.field? "warnings" =
      some (.array ((b.compile tools config).warnings.map .string)) := by
  rw [Output.warnings, dropped_compile copies, ← Progress.dropped_sources housed_lowered.held]
  rfl

end Batch

/-- Nothing but optional artifacts is ever dropped. The container and the index are always there,
    and the warnings that can be read from the index are those of the outcome. -/
theorem dropsOptional_of_compile {tools : Toolchain} {config : Config} {given : List Definition}
    {resources : List Resource} {output : Output} (builtin : tools.parsers = [.json])
    (run : compile tools config given resources = .ok output) :
    (∀ d ∈ output.artifacts.dropped, d.dropped.IsOptional) ∧
    (∃ entries, output.artifacts.get? Container.path =
        some ⟨Container.path, .text (Container.text tools.injection.injects entries), .producer⟩ ∧
      entries.map ContainerEntry.processId = output.compiled) ∧
    ∃ value entries, output.artifacts.IndexReads value ∧
      value.field? "processes" = some (.array entries) ∧
      entries.map (Json.field? "id") = output.compiled.map (fun id => some (.string id)) ∧
      value.field? "warnings" = some (.array (output.warnings.map .string)) := by
  obtain ⟨batch, collected, rfl⟩ := exists_batch_of_compile run
  rw [builtin] at collected
  obtain ⟨-, rfl⟩ := Batch.collect_eq_ok_iff.1 collected
  obtain ⟨entries, isList, ids⟩ := Batch.index_lists
  refine ⟨?_, ⟨_, Batch.compile_container, Batch.map_processId_containerEntry⟩,
    _, entries, Batch.indexReads_compile, isList, ids,
    Batch.field?_warnings_index fun u member a isCopy => Batch.isCopy_of_copy? member isCopy⟩
  rw [Batch.dropped_compile fun u member a isCopy => Batch.isCopy_of_copy? member isCopy]
  exact Progress.dropsOptional_ofLowered fun l member => Batch.isModelled_of_mem_lowered member

/-- A process that awaits two messages whose names differ in a sign that no type can have. -/
def Definition.awaitingBoth (id : String) : Definition :=
  { id
    package := "p"
    nodes := [{ id := "start", kind := .start none },
      { id := "first", kind := .receiveTask { name := "m-n" } },
      { id := "second", kind := .receiveTask { name := "m_n" } }] }

/-- The outcome of compiling that process together with a file that is copied. -/
def awaitingBothOutcome : Output :=
  (Batch.ofGathered false (Gathered.ofInput [.json] [.awaitingBoth "a"]
    [.describing "x/f.json" "b"])).compile (.ofConfig .lenient) .lenient

private theorem compile_awaitingBoth :
    compile (.ofConfig .lenient) .lenient [.awaitingBoth "a"] [.describing "x/f.json" "b"] =
      .ok awaitingBothOutcome :=
  compile_of_nodup rfl (by decide +kernel)

private theorem awaitingBothOutcome_facts :
    awaitingBothOutcome.artifacts.dropped.map (fun d => (d.path.text, d.dropped)) =
      [("p/amessage_consumer_mn.rs", .messageConsumer)] ∧
    (awaitingBothOutcome.artifacts.get? ⟨"resources/p/f.json"⟩).isSome = true := by
  decide +kernel

theorem dropsOptional_of_compile_awaitingBoth :
    compile (.ofConfig .lenient) .lenient [.awaitingBoth "a"] [.describing "x/f.json" "b"] =
      .ok awaitingBothOutcome ∧
    (awaitingBothOutcome.artifacts.dropped.map (fun d => (d.path.text, d.dropped)) =
        [("p/amessage_consumer_mn.rs", .messageConsumer)] ∧
      (awaitingBothOutcome.artifacts.get? ⟨"resources/p/f.json"⟩).isSome = true) ∧
    (∀ d ∈ awaitingBothOutcome.artifacts.dropped, d.dropped.IsOptional) ∧
    ∃ value, awaitingBothOutcome.artifacts.IndexReads value ∧
      value.field? "warnings" = some (.array (awaitingBothOutcome.warnings.map .string)) := by
  obtain ⟨optional, -, value, -, reads, -, -, warnings⟩ :=
    dropsOptional_of_compile rfl compile_awaitingBoth
  exact ⟨compile_awaitingBoth, awaitingBothOutcome_facts, optional, value, reads, warnings⟩

end Flowsmith

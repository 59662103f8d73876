import Flowsmith.Proofs.Stages

/-!
Copies of definition resources. All processes of a file share its copy, so of several copies for one
place only the first is looked at. Files of one name in different directories meet at one place as
well: the first of them is copied, and the others are passed over without a note.
-/

namespace Flowsmith

namespace Collected

/-- Where the copy of the resource of a process goes. -/
def copyPath (c : Collected) : Path :=
  resourceCopyPath c.definition.package c.origin

/-- The copy of the resource of a process, if it was read from one. -/
def copy? (c : Collected) : Option Artifact :=
  c.contents.map (resourceCopy c.definition.package c.origin)

end Collected

/-- Whether a process was compiled from a resource whose copy goes to a place. -/
def Output.copiesTo (output : Output) (place : Path) (c : Collected) : Bool :=
  output.compiled.contains c.id && c.contents.isSome && c.copyPath.same place

/-- A place has the copy of the first resource that goes there, unless that copy is noted as
    dropped. -/
def Output.CopiesFirst (batch : Batch) (output : Output) (place : Path) : Prop :=
  ∃ first contents, batch.members.find? (output.copiesTo place) = some first ∧
    first.contents = some contents ∧
    (output.artifacts.get? place =
        some (resourceCopy first.definition.package first.origin contents) ∨
      ∃ kept, output.artifacts.get? place = some kept ∧
        ⟨first.copyPath, kept.category, .internalResource⟩ ∈ output.artifacts.dropped)

/-- What became of the resource that a process was compiled from. -/
structure Output.CopiesSource (parsers : List ResourceParser) (resources : List Resource)
    (batch : Batch) (output : Output) (c : Collected) (contents : List UInt8) : Prop where
  /-- The resource is one of those that were given, and the process is described there. -/
  source : ∃ r ∈ resources, r.path = c.origin ∧ r.contents = contents ∧
    ∃ ds, ResourceParser.read parsers r = .ok ds ∧ c.definition ∈ ds
  /-- The place of its copy has the copy of the first resource that goes there, or that one is noted
      as dropped. -/
  copied : output.CopiesFirst batch c.copyPath
  /-- The contents are passed over without a note only for those of another resource. -/
  kept : (∀ other ∈ batch.members, output.copiesTo c.copyPath other = true →
    other.contents = some contents) →
    (output.artifacts.get? c.copyPath).map (fun a => a.content.bytes) = some contents ∨
      ∃ late ∈ output.artifacts.dropped, late.path.same c.copyPath = true

section Gathering

variable {parsers : List ResourceParser} {given : List Definition} {resources : List Resource}

/-- What has the contents of a resource was read from it. -/
theorem Gathered.exists_resource {c : Collected} {contents : List UInt8}
    (member : c ∈ (Gathered.ofInput parsers given resources).definitions)
    (isRead : c.contents = some contents) :
    ∃ r ∈ resources, r.path = c.origin ∧ r.contents = contents ∧
      ∃ ds, ResourceParser.read parsers r = .ok ds ∧ c.definition ∈ ds := by
  rcases List.mem_append.1 member with models | read
  · obtain ⟨i, inRange, rfl⟩ := List.mem_mapIdx.1 models
    exact absurd isRead (by simp [Collected.ofGiven])
  · obtain ⟨g, gathered, inDefinitions⟩ := List.mem_flatMap.1 read
    obtain ⟨r, inResources, rfl⟩ := List.mem_map.1 gathered
    unfold Gathered.ofResource at inDefinitions
    split at inDefinitions
    · rename_i ds parsed
      obtain ⟨d, inFile, rfl⟩ := List.mem_map.1 inDefinitions
      exact ⟨r, inResources, rfl, Option.some.inj isRead, ds, parsed, inFile⟩
    · exact absurd inDefinitions (List.not_mem_nil)

end Gathering

section Places

/-- Leaving out what comes too late for its place does not change what is found first at a place. -/
theorem find?_distinctByPath {before : List Path} {as : List Artifact} {place : Path}
    (fresh : ∀ b ∈ before, b.same place = false) :
    (distinctByPath before as).find? (fun a => a.path.same place) =
      as.find? fun a => a.path.same place := by
  induction as generalizing before with
  | nil => rfl
  | cons head rest ih =>
      unfold distinctByPath
      split
      · rename_i late
        -- What comes late is for a place that was met before, and this one was not.
        obtain ⟨b, inBefore, met⟩ := List.any_eq_true.1 late
        have elsewhere : head.path.same place = false := by
          rw [Bool.eq_false_iff]
          intro here
          have clash := Path.same_trans (Path.same_symm met) here
          rw [fresh b inBefore] at clash
          exact Bool.noConfusion clash
        rw [List.find?_cons, elsewhere]
        exact ih fresh
      · cases here : head.path.same place with
        | true => simp [here]
        | false =>
            rw [List.find?_cons, List.find?_cons, here]
            refine ih ?_
            intro b member
            rcases List.mem_append.1 member with earlier | now
            · exact fresh b earlier
            · rw [List.mem_singleton.1 now]
              exact here

/-- A part of a list whose keys are distinct is what has the keys of that part. -/
theorem eq_filter_of_sublist {α κ : Type} [BEq κ] [LawfulBEq κ] {key : α → κ} {xs ys : List α}
    (part : xs.Sublist ys) (distinct : (ys.map key).Nodup) :
    xs = ys.filter fun y => (xs.map key).contains (key y) := by
  induction part with
  | slnil => rfl
  | @cons xs ys y part ih =>
      obtain ⟨fresh, distinctRest⟩ := List.nodup_cons.1 distinct
      have absent : (xs.map key).contains (key y) = false := by
        rw [Bool.eq_false_iff, ne_eq, List.contains_iff_mem]
        exact fun member => fresh ((part.map key).subset member)
      rw [List.filter_cons, absent]
      exact ih distinctRest
  | @cons_cons xs ys y part ih =>
      obtain ⟨fresh, distinctRest⟩ := List.nodup_cons.1 distinct
      have same : (ys.filter fun z => ((y :: xs).map key).contains (key z)) =
          ys.filter fun z => (xs.map key).contains (key z) := by
        refine List.filter_congr ?_
        intro z member
        have other : key z ≠ key y := fun equal => fresh (equal ▸ List.mem_map_of_mem member)
        simp [other]
      rw [List.filter_cons, same, ← ih distinctRest]
      simp

end Places

namespace Batch

variable {tools : Toolchain} {config : Config} {b : Batch}

/-- The compiled processes are those members whose ids are listed. -/
theorem map_source_compiled (distinct : (b.members.map Collected.id).Nodup) :
    (Progress.ofLowered tools config (b.lowered tools config).1).compiled.map ProcessUnit.source =
      b.members.filter fun c => (b.compile tools config).compiled.contains c.id := by
  -- They are a part of the members in their order, and a part is known by the ids in it.
  have part : ((Progress.ofLowered tools config (b.lowered tools config).1).compiled.map
      ProcessUnit.source).Sublist b.members := by
    have order : (Progress.ofLowered tools config (b.lowered tools config).1).compiled.Sublist
        ((b.lowered tools config).1.map (Lowered.toUnit config.messaging)) :=
      Progress.compiled_sublist_run _
    have sources := order.map ProcessUnit.source
    rw [List.map_map] at sources
    exact sources.trans (lowered_sources_sublist tools)
  have listed := eq_filter_of_sublist part distinct
  rw [List.map_map] at listed
  exact listed

/-- The copy that is made for a place is that of the first process whose copy goes there. -/
theorem find?_copies (tools : Toolchain) (config : Config)
    (distinct : (b.members.map Collected.id).Nodup) (place : Path) :
    (Progress.ofLowered tools config (b.lowered tools config).1).copies.find?
        (fun a => a.path.same place) =
      (b.members.find? ((b.compile tools config).copiesTo place)).bind Collected.copy? := by
  have copies : (Progress.ofLowered tools config (b.lowered tools config).1).copies =
      distinctByPath [] ((b.members.filter fun c =>
        (b.compile tools config).compiled.contains c.id).filterMap Collected.copy?) := by
    rw [← map_source_compiled distinct, List.filterMap_map]
    rfl
  rw [copies, find?_distinctByPath (fun _ member => absurd member (List.not_mem_nil)),
    List.find?_filterMap, List.find?_filter]
  congr 2
  funext c
  cases isRead : c.contents with
  | none => simp [Output.copiesTo, Collected.copy?, isRead]
  | some contents =>
      simp [Output.copiesTo, Collected.copy?, isRead, resourceCopy, Collected.copyPath]

theorem copiesFirst {c : Collected} (distinct : (b.members.map Collected.id).Nodup)
    (member : c ∈ b.members) (listed : c.id ∈ (b.compile tools config).compiled)
    {contents : List UInt8} (isRead : c.contents = some contents) :
    (b.compile tools config).CopiesFirst b c.copyPath := by
  have own : (b.compile tools config).copiesTo c.copyPath c = true := by
    simp [Output.copiesTo, listed, isRead]
  obtain ⟨first, found⟩ := Option.isSome_iff_exists.1 (List.find?_isSome.2 ⟨c, member, own⟩)
  have met := List.find?_some found
  simp only [Output.copiesTo, Bool.and_eq_true] at met
  obtain ⟨⟨-, isSome⟩, samePlace⟩ := met
  obtain ⟨firstContents, firstRead⟩ := Option.isSome_iff_exists.1 isSome
  have copy := find?_copies tools config distinct c.copyPath
  rw [found, Option.bind_some, Collected.copy?, firstRead, Option.map_some] at copy
  have reports : (b.compile tools config).artifacts.Reports
      (resourceCopy first.definition.package first.origin firstContents) :=
    ArtifactSet.reports_registerAll _ (List.mem_of_find?_eq_some copy)
  refine ⟨first, firstContents, found, firstRead, ?_⟩
  rw [← ArtifactSet.get?_congr _ samePlace]
  exact reports

end Batch

theorem Output.CopiesFirst.kept {batch : Batch} {output : Output} {place : Path}
    (copied : output.CopiesFirst batch place) {contents : List UInt8}
    (alike : ∀ other ∈ batch.members, output.copiesTo place other = true →
      other.contents = some contents) :
    (output.artifacts.get? place).map (fun a => a.content.bytes) = some contents ∨
      ∃ late ∈ output.artifacts.dropped, late.path.same place = true := by
  obtain ⟨first, firstContents, found, firstRead, holds⟩ := copied
  have met := List.find?_some found
  have same : firstContents = contents :=
    Option.some.inj (firstRead.symm.trans (alike first (List.mem_of_find?_eq_some found) met))
  rcases holds with held | ⟨kept, -, noted⟩
  · left
    rw [held, same]
    rfl
  · right
    simp only [Output.copiesTo, Bool.and_eq_true] at met
    exact ⟨_, noted, met.2⟩

/-- No copy of a definition resource is lost silently, as far as resources do not meet at one place:
    where a process was compiled from a resource, its place holds the copy of the first resource
    that goes there, or that copy is noted as dropped for what has the place. -/
theorem copies_of_compile {tools : Toolchain} {config : Config} {given : List Definition}
    {resources : List Resource} {output : Output}
    (run : compile tools config given resources = .ok output) :
    ∃ batch,
      Batch.collect tools.parsers config.emitPlaceholderWhenEmpty given resources = .ok batch ∧
      output.compiled ⊆ batch.members.map Collected.id ∧
      ∀ c ∈ batch.members, c.id ∈ output.compiled →
        ∀ contents, c.contents = some contents →
          output.CopiesSource tools.parsers resources batch c contents := by
  obtain ⟨batch, collected, rfl⟩ := exists_batch_of_compile run
  obtain ⟨nodup, isBatch⟩ := Batch.collect_eq_ok_iff.1 collected
  have distinct : (batch.members.map Collected.id).Nodup := by
    rw [isBatch]
    exact Batch.nodup_members_ofGathered nodup
  refine ⟨batch, collected, Batch.compiled_subset_members, ?_⟩
  intro c member listed contents isRead
  have copied := Batch.copiesFirst distinct member listed isRead
  refine ⟨?_, copied, copied.kept⟩
  rw [isBatch] at member
  rcases Batch.mem_members_ofGathered member with rfl | ⟨inDefinitions, -⟩
  · exact absurd isRead (by simp [Collected.placeholder])
  · exact Gathered.exists_resource inDefinitions isRead

/-- A file that describes a process of one node. -/
def Resource.describing (path id : String) : Resource :=
  { path
    contents := Text.utf8 ("\x7b\"id\":\"" ++ id ++ "\",\"packageName\":\"p\"," ++
      "\"nodes\":[\x7b\"id\":\"s\",\"nodeType\":\"Start\"\x7d]\x7d") }

/-- Two files of one name. -/
def namesakeFiles : List Resource :=
  [.describing "x/f.json" "a", .describing "y/f.json" "b"]

/-- What is collected from them. -/
def namesakeBatch : Batch :=
  .ofGathered false (Gathered.ofInput [.json] [] namesakeFiles)

/-- What comes of them. -/
def namesakeOutcome : Output :=
  namesakeBatch.compile (.ofConfig .lenient) .lenient

private theorem distinct_namesakeFiles :
    ((Gathered.ofInput [.json] [] namesakeFiles).definitions.map Collected.id).Nodup := by
  decide +kernel

private theorem collect_namesakeFiles :
    Batch.collect [.json] false [] namesakeFiles = .ok namesakeBatch :=
  Batch.collect_eq_ok_iff.2 ⟨distinct_namesakeFiles, rfl⟩

private theorem compile_namesakeFiles :
    compile (.ofConfig .lenient) .lenient [] namesakeFiles = .ok namesakeOutcome :=
  compile_of_nodup rfl distinct_namesakeFiles

private theorem namesakeOutcome_facts :
    (∃ c ∈ namesakeBatch.members, c.id = "b" ∧ c.copyPath = ⟨"resources/p/f.json"⟩ ∧
      c.contents = some (Resource.describing "y/f.json" "b").contents) ∧
    namesakeOutcome.compiled = ["a", "b"] ∧ namesakeOutcome.artifacts.dropped = [] ∧
    (namesakeOutcome.artifacts.get? ⟨"resources/p/f.json"⟩).map (fun a => a.content.bytes) =
      some (Resource.describing "x/f.json" "a").contents := by
  decide +kernel

theorem copies_of_compile_namesakes :
    ∃ output batch c, compile (.ofConfig .lenient) .lenient [] namesakeFiles = .ok output ∧
      c ∈ batch.members ∧ c.id = "b" ∧ "b" ∈ output.compiled ∧
      output.CopiesSource [.json] namesakeFiles batch c
        (Resource.describing "y/f.json" "b").contents := by
  obtain ⟨batch, collected, -, copied⟩ := copies_of_compile compile_namesakeFiles
  obtain rfl : namesakeBatch = batch := Except.ok.inj (collect_namesakeFiles.symm.trans collected)
  obtain ⟨⟨c, member, isB, -, isRead⟩, compiled, -⟩ := namesakeOutcome_facts
  have listed : "b" ∈ namesakeOutcome.compiled := by
    rw [compiled]
    decide
  exact ⟨_, _, c, compile_namesakeFiles, member, isB, listed,
    copied c member (isB ▸ listed) _ isRead⟩

/-- Not every copy is there or noted as dropped. The second of two files of one name is gone without
    a trace: at its place is the copy of the first. -/
theorem namesake_files_not_copied :
    ¬ ∀ (config : Config) (given : List Definition) (resources : List Resource) (output : Output)
      (batch : Batch), config.failOnError = false →
      compile (.ofConfig config) config given resources = .ok output →
      Batch.collect [.json] config.emitPlaceholderWhenEmpty given resources = .ok batch →
        ∀ c ∈ batch.members, c.id ∈ output.compiled → ∀ contents, c.contents = some contents →
          (output.artifacts.get? c.copyPath).map (fun a => a.content.bytes) = some contents ∨
            ∃ d ∈ output.artifacts.dropped, d.path.same c.copyPath = true := by
  intro copied
  obtain ⟨⟨c, member, isB, place, isRead⟩, compiled, nothingDropped, held⟩ := namesakeOutcome_facts
  have listed : c.id ∈ namesakeOutcome.compiled := by
    rw [isB, compiled]
    decide
  rcases copied .lenient [] namesakeFiles _ _ rfl compile_namesakeFiles
    collect_namesakeFiles c member
    listed _ isRead with there | ⟨d, noted, -⟩
  · rw [place, held] at there
    exact absurd there (by decide +kernel)
  · rw [nothingDropped] at noted
    exact absurd noted (List.not_mem_nil)

end Flowsmith

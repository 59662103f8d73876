import Flowsmith.Proofs.Copies

/-!
All artifacts stay below the place that they are written to. Packages are made of identifiers, files
of types are named by words, and the copy of a resource goes by the last name of a path that ends in
a name; so no path has a root, a step up or a step to the place itself.
-/

namespace Flowsmith

namespace Path

/-- Each step of the path is a name. -/
def Descends (p : Path) : Prop :=
  ∀ step ∈ p.components, ∃ name, IsFileName name ∧ step = .name name

/-- A path to a place below the one that it is joined to. -/
structure LeadsBelow (p : Path) : Prop where
  relative : p.isAbsolute = false
  notEmpty : p.components ≠ []
  descends : p.Descends
  below : ∀ root : Path, (root.join p.text).components = root.components ++ p.components

theorem Descends.isInner {p : Path} (down : p.Descends) : p.IsInner := by
  constructor
  all_goals
    intro member
    obtain ⟨name, -, equal⟩ := down _ member
    exact absurd equal (by simp)

theorem Descends.leadsBelow {p : Path} (down : p.Descends) (notEmpty : p.components ≠ []) :
    p.LeadsBelow := by
  refine ⟨?_, notEmpty, down, fun root => root.components_join_text down.isInner⟩
  rw [Bool.eq_false_iff]
  intro absolute
  exact down.isInner.1 (root_mem_components absolute)

theorem descends_fileName {piece : String} (file : IsFileName piece) : Descends ⟨piece⟩ := by
  intro step member
  rw [components_fileName file] at member
  exact ⟨piece, file, List.mem_singleton.1 member⟩

theorem Descends.join_text {p q : Path} (down : p.Descends) (further : q.Descends) :
    (p.join q.text).Descends := by
  intro step member
  rw [components_join_text p further.isInner] at member
  rcases List.mem_append.1 member with first | second
  · exact down step first
  · exact further step second

theorem Descends.join {p : Path} {piece : String} (down : p.Descends) (file : IsFileName piece) :
    (p.join piece).Descends :=
  down.join_text (descends_fileName file)

theorem Descends.leadsBelow_join {p : Path} {piece : String} (down : p.Descends)
    (file : IsFileName piece) : (p.join piece).LeadsBelow := by
  refine (down.join file).leadsBelow ?_
  rw [components_join file]
  simp

theorem descends_ofPieces {pieces : List String} (names : ∀ piece ∈ pieces, IsFileName piece) :
    (ofPieces pieces).Descends := by
  intro step member
  rw [components_ofPieces names] at member
  obtain ⟨piece, inPieces, rfl⟩ := List.mem_map.1 member
  exact ⟨piece, names piece inPieces, rfl⟩

/-- Between separators there are none. -/
theorem not_mem_of_mem_splitOn {c : Char} {cs piece : List Char} (member : piece ∈ cs.splitOn c) :
    c ∉ piece := by
  induction cs generalizing piece with
  | nil =>
      rw [List.splitOn_nil, List.mem_singleton] at member
      simp [member]
  | cons head rest ih =>
      rw [List.splitOn_cons_eq_if_modifyHead] at member
      split at member
      · rcases List.mem_cons.1 member with rfl | inRest
        · simp
        · exact ih inRest
      · rename_i other
        cases pieces : rest.splitOn c with
        | nil => exact absurd pieces (List.splitOn_ne_nil c rest)
        | cons first others =>
            rw [pieces] at member ih
            rw [List.modifyHead_cons] at member
            rcases List.mem_cons.1 member with rfl | inOthers
            · have notFirst : c ∉ first := ih List.mem_cons_self
              have notHead : c ≠ head := by
                rintro rfl
                simp at other
              simp [notFirst, notHead]
            · exact ih (List.mem_cons_of_mem _ inOthers)

/-- A piece that is read as a name is one. -/
theorem isFileName_of_stepOf {piece : List Char} {name : String} (noSlash : '/' ∉ piece)
    (step : stepOf piece = some (.name name)) : IsFileName name := by
  unfold stepOf at step
  split at step
  · exact absurd step (by simp)
  · rename_i proper
    split at step
    · exact absurd step (by simp)
    · rename_i notUp
      simp only [Option.some.injEq, Component.name.injEq] at step
      rw [← step]
      simp only [IsFileName, String.toList_ofList]
      exact ⟨noSlash, fun empty => proper (.inl empty), fun dot => proper (.inr dot), notUp⟩

/-- The first piece of a path may stand for more than the others do, but not for more names. -/
theorem mem_filterMap_of_mem_stepsOfPieces {absolute : Bool} {pieces : List (List Char)}
    {name : String} (member : .name name ∈ stepsOfPieces absolute pieces) :
    .name name ∈ pieces.filterMap stepOf := by
  cases pieces with
  | nil => exact member
  | cons first rest =>
      by_cases empty : first = []
      · cases absolute <;> simpa [stepsOfPieces, empty, stepOf] using member
      · by_cases dot : first = ['.']
        · simpa [stepsOfPieces, dot, stepOf] using member
        · cases step : stepOf first <;> simpa [stepsOfPieces, empty, dot, step] using member

theorem isFileName_of_mem_components {p : Path} {name : String}
    (member : .name name ∈ p.components) :
    IsFileName name := by
  rw [components_eq_stepsOfPieces] at member
  obtain ⟨piece, inPieces, step⟩ := List.mem_filterMap.1 (mem_filterMap_of_mem_stepsOfPieces member)
  exact isFileName_of_stepOf (not_mem_of_mem_splitOn inPieces) step

theorem isFileName_of_fileName? {p : Path} {name : String} (last : p.fileName? = some name) :
    IsFileName name := by
  unfold fileName? at last
  split at last
  · rename_i found isLast
    obtain rfl : found = name := Option.some.inj last
    exact isFileName_of_mem_components (List.mem_of_getLast? isLast)
  · exact absurd last (by simp)

end Path

/-- The segments of a plain package are names. -/
theorem PlainPackage.isFileName {package segment : String} (plain : PlainPackage package)
    (member : segment ∈ packageSegments package) : Path.IsFileName segment := by
  have admitted : ∀ c ∈ segment.toList, Naming.isWordChar c = true := by
    intro c inSegment
    rw [← plain segment member, Naming.sanitize, String.toList_ofList] at inSegment
    exact Naming.isWordChar_of_mem_sanitizeChars inSegment
  have notEmpty : segment.toList ≠ [] := by
    obtain ⟨piece, inPieces, rfl⟩ := List.mem_map.1 member
    simpa using (List.mem_filter.1 inPieces).2
  refine ⟨?_, notEmpty, ?_, ?_⟩
  · intro slash
    exact absurd (admitted '/' slash) (by decide)
  all_goals
    intro dots
    exact absurd (admitted '.' (by simp [dots])) (by decide)

theorem PlainPackage.descends {package : String} (plain : PlainPackage package) :
    (packageDir package).Descends :=
  Path.descends_ofPieces fun _ member => plain.isFileName member

theorem Names.leadsBelow_classPath {n : Names} (plain : PlainPackage n.package)
    (className : String) : (n.classPath className).LeadsBelow := by
  unfold classPath artifactPath
  exact plain.descends.leadsBelow_join (isFileName_classFile className)

/-- The copy of a resource whose path ends in a name goes below its package. -/
theorem leadsBelow_resourceCopyPath {package resource : String} (plain : PlainPackage package)
    (named : (Path.fileName? ⟨resource⟩).isSome = true) :
    (resourceCopyPath package resource).LeadsBelow := by
  obtain ⟨name, isName⟩ := Option.isSome_iff_exists.1 named
  have top : Path.Descends ⟨"resources"⟩ := Path.descends_fileName (by decide)
  unfold resourceCopyPath
  rw [isName]
  exact (top.join_text plain.descends).leadsBelow_join (Path.isFileName_of_fileName? isName)

/-- The place of the copy of some JSON resource. -/
def Path.IsCopy (p : Path) : Prop :=
  ∃ package resource, PlainPackage package ∧ Resource.hasJsonExtension resource = true ∧
    p = resourceCopyPath package resource

/-- A resource with the extension of JSON has a file name. -/
theorem Resource.isSome_fileName? {path : String} (accepted : hasJsonExtension path = true) :
    (Path.fileName? ⟨path⟩).isSome = true := by
  obtain ⟨extension, found, -⟩ := (Option.any_eq_true _ _).1 accepted
  unfold Path.extension? at found
  obtain ⟨name, isName, -⟩ := Option.bind_eq_some_iff.1 found
  simp [isName]

theorem ResourceParser.accepts_of_read {r : Resource} {ds : List Definition}
    (parsed : ResourceParser.read [.json] r = .ok ds) :
    Resource.hasJsonExtension r.path = true := by
  unfold ResourceParser.read at parsed
  split at parsed
  · rename_i parser found
    have accepts := List.find?_some found
    obtain rfl : parser = .json := List.mem_singleton.1 (List.mem_of_find?_eq_some found)
    exact accepts
  · exact absurd parsed (by simp)

namespace Batch

variable {tools : Toolchain} {config : Config} {usePlaceholder : Bool} {given : List Definition}
  {resources : List Resource} {u : ProcessUnit}

/-- What is copied is a JSON resource. -/
theorem isCopy_of_copy? {a : Artifact}
    (member : u ∈ (Progress.ofLowered tools config ((ofGathered usePlaceholder
      (Gathered.ofInput [.json] given resources)).lowered tools config).1).compiled)
    (isCopy : u.copy? = some a) : a.path.IsCopy := by
  obtain ⟨contents, isRead, rfl⟩ := Option.map_eq_some_iff.1 isCopy
  obtain ⟨l, lowered, rfl⟩ := List.mem_map.1 ((Progress.compiled_sublist_run _).subset member)
  have inMembers := source_of_mem_lowered lowered
  have accepted : Resource.hasJsonExtension l.source.origin = true := by
    rcases mem_members_ofGathered inMembers with placeholder | ⟨inDefinitions, -⟩
    · have unread : l.source.contents = none := congrArg Collected.contents placeholder
      exact absurd (unread.symm.trans isRead) (by simp)
    · obtain ⟨r, -, origin, -, ds, parsed, -⟩ := Gathered.exists_resource inDefinitions isRead
      rw [← origin]
      exact ResourceParser.accepts_of_read parsed
  exact ⟨_, _, plainPackage_of_mem_members inMembers, accepted, rfl⟩

/-- The sources of a batch stay below the output. -/
theorem leadsBelow_source {g : Gathered} {a : Artifact}
    (member : a ∈ (Progress.ofLowered tools config
      ((ofGathered usePlaceholder g).lowered tools config).1).artifacts.artifacts) :
    a.path.LeadsBelow := by
  obtain ⟨u, inUnits, produced⟩ := Progress.exists_produces_of_mem_run a member
  obtain ⟨l, lowered, rfl⟩ := List.mem_map.1 inUnits
  obtain ⟨className, -, place⟩ := produced.exists_class (isModelled_of_mem_lowered lowered)
  have plain : PlainPackage (l.toUnit config.messaging).names.package :=
    plainPackage_of_mem_members (source_of_mem_lowered lowered)
  rw [place]
  exact Names.leadsBelow_classPath plain className

/-- The copies of resources lead below the directory of the output. -/
theorem leadsBelow_copy {a : Artifact}
    (member : u ∈ (Progress.ofLowered tools config ((ofGathered usePlaceholder
      (Gathered.ofInput [.json] given resources)).lowered tools config).1).compiled)
    (isCopy : u.copy? = some a) : a.path.LeadsBelow := by
  obtain ⟨package, resource, plain, accepted, place⟩ := isCopy_of_copy? member isCopy
  rw [place]
  exact leadsBelow_resourceCopyPath plain (Resource.isSome_fileName? accepted)

end Batch

/-- No artifact escapes from where the output goes. Whatever the definitions and resources are
    called, the path of each artifact is relative and consists of names, so what it is joined to
    stays above it. -/
theorem leadsBelow_of_compile {tools : Toolchain} {config : Config} {given : List Definition}
    {resources : List Resource} {output : Output} (builtin : tools.parsers = [.json])
    (run : compile tools config given resources = .ok output) :
    ∀ a ∈ output.artifacts.artifacts, a.path.LeadsBelow := by
  obtain ⟨batch, collected, rfl⟩ := exists_batch_of_compile run
  rw [builtin] at collected
  obtain ⟨-, rfl⟩ := Batch.collect_eq_ok_iff.1 collected
  intro a member
  rcases Progress.mem_allArtifacts member with source | rfl | rfl | ⟨u, compiled, isCopy⟩
  · exact Batch.leadsBelow_source source
  · have container : Path.Descends Container.path := Path.descends_fileName (by decide)
    exact container.leadsBelow (by decide)
  · have index : Path.Descends Index.path := Path.descends_fileName (by decide)
    exact index.leadsBelow (by decide)
  · exact Batch.leadsBelow_copy compiled isCopy

/-- A file that is named from the root and describes a process whose id leads up. -/
def climbingFiles : List Resource :=
  [.describing "/srv/../f.json" "../x"]

/-- The outcome of compiling that file. -/
def climbingOutcome : Output :=
  (Batch.ofGathered false (Gathered.ofInput [.json] [] climbingFiles)).compile (.ofConfig .lenient)
    .lenient

private theorem compile_climbingFiles :
    compile (.ofConfig .lenient) .lenient [] climbingFiles = .ok climbingOutcome :=
  compile_of_nodup rfl (by decide +kernel)

theorem leadsBelow_of_compile_climbing :
    compile (.ofConfig .lenient) .lenient [] climbingFiles = .ok climbingOutcome ∧
    climbingOutcome.artifacts.artifacts.map (fun a => a.path.text) =
      ["p/xmodel.rs", "p/xmodel_input.rs", "p/xmodel_output.rs", "p/xprocess.rs",
        "p/xprocess_instance.rs", "processes.json", "processes.rs", "resources/p/f.json"] ∧
    ∀ a ∈ climbingOutcome.artifacts.artifacts, a.path.LeadsBelow := by
  refine ⟨compile_climbingFiles, ?_, leadsBelow_of_compile rfl compile_climbingFiles⟩
  decide +kernel

end Flowsmith

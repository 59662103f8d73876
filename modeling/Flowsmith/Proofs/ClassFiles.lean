import Flowsmith.Container
import Flowsmith.Index
import Flowsmith.Proofs.Paths
import Flowsmith.Proofs.WellFormed

/-!
Files of generated types. Each type of a process has a file of its own, none of them is the
container or the index, and the qualified name of a type leads to its file when the package is
well-formed.
-/

namespace Flowsmith

namespace Names

/-- What follows the stem in the names of the types that are generated once for a process. -/
def fixedEndings : List String :=
  ["Model", "ModelInput", "ModelOutput", "Process", "ProcessInstance", "Resource"]

/-- The types that are generated once for a process. -/
def fixedClasses (n : Names) : List String :=
  [n.modelClass, n.inputModelClass, n.outputModelClass, n.processClass, n.instanceClass,
    n.resourceClass]

theorem fixedClasses_eq (n : Names) : n.fixedClasses = fixedEndings.map (n.stem ++ ·) := rfl

/-- The types that are generated for a process. -/
inductive IsClass (n : Names) : String → Prop
  | fixed {className : String} (member : className ∈ n.fixedClasses) : n.IsClass className
  | consumer (trigger : String) : n.IsClass (n.consumerClass trigger)
  | producer (trigger : String) : n.IsClass (n.producerClass trigger)

/-- The letters of a module: those of the stem, then those of what follows it. -/
theorem letters_moduleOf (stem ending : String)
    (notEmpty : Naming.smallLetters ending.toList ≠ []) :
    Naming.letters (moduleOf (stem ++ ending)).toList =
      Naming.smallLetters stem.toList ++ Naming.smallLetters ending.toList := by
  simp only [moduleOf, Naming.snake, String.toList_ofList, String.toList_append]
  rw [Naming.letters_snakeChars, Naming.smallLetters_append]
  simp [notEmpty]

/-- The letters of the endings are not empty, are pairwise distinct, and end no `processes`. -/
theorem fixedEndings_letters :
    (∀ e ∈ fixedEndings, Naming.smallLetters e.toList ≠ [] ∧
      ¬ Naming.smallLetters e.toList <:+ "processes".toList) ∧
    (fixedEndings.map fun e => Naming.smallLetters e.toList).Nodup := by
  decide

theorem isFileName_classFile (className : String) :
    Path.IsFileName (moduleOf className ++ "." ++ "rs") := by
  refine ⟨?_, ?_, ?_, ?_⟩
  · intro slash
    simp only [String.toList_append, List.mem_append] at slash
    rcases slash with (slash | slash) | slash
    · exact Naming.slash_not_mem_snake className slash
    · exact absurd slash (by decide)
    · exact absurd slash (by decide)
  all_goals
    intro equal
    have last := congrArg List.getLast? equal
    simp at last

theorem components_classPath (n : Names) (className : String) :
    (n.classPath className).components =
      (packageDir n.package).components ++ [.name (moduleOf className ++ "." ++ "rs")] := by
  unfold classPath artifactPath
  rw [Path.components_join (isFileName_classFile className)]

/-- Two types of a process share a file only when they share their module. -/
theorem same_classPath_iff (n : Names) (first second : String) :
    (n.classPath first).same (n.classPath second) = true ↔ moduleOf first = moduleOf second := by
  unfold classPath artifactPath
  rw [Path.same_join_iff (isFileName_classFile first) (isFileName_classFile second)]
  simp

/-- Types whose names end in different letters have different files. -/
theorem not_same_of_letters {n : Names} {first second : String}
    (notEmpty : Naming.smallLetters first.toList ≠ [])
    (notEmpty' : Naming.smallLetters second.toList ≠ [])
    (different : Naming.smallLetters first.toList ≠ Naming.smallLetters second.toList) :
    (n.classPath (n.stem ++ first)).same (n.classPath (n.stem ++ second)) = false := by
  rw [Bool.eq_false_iff, Ne, same_classPath_iff]
  intro equal
  apply different
  have letters := congrArg (fun name => Naming.letters name.toList) equal
  simp only [letters_moduleOf n.stem first notEmpty,
    letters_moduleOf n.stem second notEmpty'] at letters
  exact List.append_cancel_left letters

/-- The types that are generated once for a process have a file each. -/
theorem pairwise_fixedClasses (n : Names) :
    n.fixedClasses.Pairwise fun c d => (n.classPath c).same (n.classPath d) = false := by
  rw [fixedClasses_eq]
  refine List.pairwise_map.2 ((List.pairwise_map.1 fixedEndings_letters.2).imp_of_mem ?_)
  intro first second isFirst isSecond different
  exact not_same_of_letters (fixedEndings_letters.1 first isFirst).1
    (fixedEndings_letters.1 second isSecond).1
    different

/-- The module of a type for the messages of a trigger is longer than what comes before the
    trigger. -/
private theorem length_le_messageModule (stem lead trigger : String)
    (notEmpty : Naming.smallLetters lead.toList ≠ []) :
    (Naming.smallLetters lead.toList).length ≤
      (Naming.letters (moduleOf (stem ++ lead ++ trigger)).toList).length := by
  have followed : Naming.smallLetters (lead ++ trigger).toList ≠ [] := by
    simp [notEmpty]
  rw [String.append_assoc, letters_moduleOf _ _ followed, String.toList_append,
    Naming.smallLetters_append]
  simp only [List.length_append]
  omega

/-- No type has a module of the name that the container has. -/
theorem moduleOf_ne_processes {n : Names} {className : String} (owned : n.IsClass className) :
    moduleOf className ≠ "processes" := by
  intro equal
  have letters : Naming.letters (moduleOf className).toList = "processes".toList := by
    rw [equal]
    decide
  cases owned with
  | fixed member =>
      rw [fixedClasses_eq] at member
      obtain ⟨ending, isEnding, rfl⟩ := List.mem_map.1 member
      have facts := fixedEndings_letters.1 ending isEnding
      rw [letters_moduleOf n.stem ending facts.1] at letters
      exact facts.2 ⟨_, letters⟩
  | consumer trigger =>
      have long :=
        length_le_messageModule n.stem "MessageConsumer" (Naming.pascal trigger) (by decide)
      rw [consumerClass] at letters
      rw [letters] at long
      exact absurd long (by decide)
  | producer trigger =>
      have long :=
        length_le_messageModule n.stem "MessageProducer" (Naming.pascal trigger) (by decide)
      rw [producerClass] at letters
      rw [letters] at long
      exact absurd long (by decide)

/-- The file of a type is the only one of its components that can be met by a path of one name. -/
private theorem fileName_of_same {n : Names} {className file : String} {p : Path}
    (components : p.components = [.name file])
    (met : (n.classPath className).same p = true) : moduleOf className ++ "." ++ "rs" = file := by
  have equal := Path.same_iff.1 met
  rw [components_classPath, components] at equal
  have last := congrArg List.getLast? equal
  simpa using last

/-- No type has the file of the container. -/
theorem classPath_not_container {n : Names} {className : String} (owned : n.IsClass className) :
    (n.classPath className).same Container.path = false := by
  rw [Bool.eq_false_iff]
  intro met
  have components : Container.path.components = [.name "processes.rs"] := by decide
  have file := congrArg String.toList (fileName_of_same components met)
  rw [String.append_assoc, String.toList_append] at file
  have module : (moduleOf className).toList = "processes".toList :=
    List.append_cancel_right (file.trans (by decide))
  exact moduleOf_ne_processes owned (String.toList_inj.1 module)

/-- No type has the file of the index. -/
theorem classPath_not_index (n : Names) (className : String) :
    (n.classPath className).same Index.path = false := by
  rw [Bool.eq_false_iff]
  intro met
  have components : Index.path.components = [.name "processes.json"] := by decide
  have last := congrArg (fun file => file.toList.getLast?) (fileName_of_same components met)
  simp at last

end Names

/-- The file that a qualified name of a generated type leads to: the modules between the root module
    and the type are its directories, and the last of them is the file. -/
def fileOfSegments (segments : List String) : Path :=
  match (segments.drop 1).dropLast.reverse with
  | [] => .empty
  | file :: above => Path.ofPieces (above.reverse ++ [file ++ ".rs"])

/-- The package segments of a definition are names of modules as they are. -/
def PlainPackage (package : String) : Prop :=
  ∀ segment ∈ packageSegments package, Naming.sanitize segment = segment

theorem Names.classSegments_eq {n : Names} (plain : PlainPackage n.package) (className : String) :
    n.classSegments className = "crate" :: packageSegments n.package ++
      [moduleOf className, className] := by
  have directories : (packageSegments n.package).map Naming.sanitize =
      packageSegments n.package := by
    rw [List.map_congr_left (g := id) plain, List.map_id]
  rw [classSegments, directories]

theorem append_extension (stem : String) : stem ++ "." ++ "rs" = stem ++ ".rs" := by
  rw [String.append_assoc]
  rfl

/-- In a plain package, the qualified name of a type leads to the file of the type. -/
theorem fileOfSegments_classSegments {n : Names} (plain : PlainPackage n.package)
    (className : String) :
    fileOfSegments (n.classSegments className) = n.classPath className := by
  have between : ((n.classSegments className).drop 1).dropLast.reverse =
      Names.moduleOf className :: (packageSegments n.package).reverse := by
    simp [Names.classSegments_eq plain]
  unfold fileOfSegments
  rw [between]
  simp only [List.reverse_reverse, Names.classPath, artifactPath, packageDir, Path.ofPieces,
    List.foldl_append, List.foldl_cons, List.foldl_nil, append_extension]

/-- A valid package segment is an identifier as it is. -/
theorem sanitize_of_validSegment {segment : List Char}
    (valid : Validation.validSegment segment = true) :
    Naming.sanitize (String.ofList segment) = String.ofList segment := by
  simp only [Validation.validSegment, Bool.and_eq_true, List.all_eq_true] at valid
  obtain ⟨start, admitted⟩ := valid
  unfold Naming.sanitize
  rw [String.toList_ofList, Naming.sanitizeChars_eq_self _ _ admitted]
  · rintro rfl
    exact absurd start (by simp)
  · cases segment with
    | nil => rfl
    | cons head rest =>
        simp only [List.head?_cons, Option.any_some, Validation.isWordStart, Bool.or_eq_true,
          beq_iff_eq] at start ⊢
        rcases start with letter | rfl
        · exact Naming.isDigit_eq_false_of_isAlpha letter
        · decide

/-- The segments of an accepted package are identifiers. -/
theorem isIdentifier_of_mem_packageSegments {d : Definition} (ok : d.validate.isOk = true)
    {segment : String}
    (member : segment ∈ packageSegments d.package) : Naming.IsIdentifier segment.toList := by
  have wellFormed := Definition.validate_eq_nil_iff.1 (List.isEmpty_iff.1 ok)
  simp only [packageSegments, List.mem_map, List.mem_filter, decide_eq_true_eq] at member
  obtain ⟨piece, ⟨inPackage, notEmpty⟩, rfl⟩ := member
  rw [String.toList_ofList]
  rcases wellFormed.package with root | identifiers
  · have nothing : piece = [] := by simpa [root] using inPackage
    exact absurd nothing notEmpty
  · exact identifiers piece inPackage

/-- Validation lets none but plain packages through. -/
theorem plainPackage_of_validate {d : Definition} (ok : d.validate.isOk = true) :
    PlainPackage d.package := by
  intro segment member
  have valid := Validation.validSegment_iff.2 (isIdentifier_of_mem_packageSegments ok member)
  simpa using sanitize_of_validSegment valid

end Flowsmith

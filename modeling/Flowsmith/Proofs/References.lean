import Flowsmith.Proofs.CalledProcesses
import Flowsmith.Proofs.LoweredReading
import Flowsmith.Proofs.ModulePaths
import Flowsmith.Proofs.PageBlocks

/-!
What the pages of a process refer to, read off the lines of code of their texts. They refer to types
of the core of the process and to the entry points of the processes that it calls; a comment refers
to nothing, but a line break in what it quotes puts the rest of that outside of it.
-/

namespace Flowsmith

open Source

/-- A qualified name refers to a type, or to something of the type. -/
def RefersTo (segments r : List String) : Prop :=
  r = segments ∨ ∃ item, r = segments ++ [item]

namespace Artifact

/-- What is read off the text of an artifact, if it has one. -/
def read {α : Type} (reading : String → List α) (a : Artifact) : List α :=
  match a.content with
  | .text text => reading text
  | .binary _ => []

theorem read_eq {α : Type} {a : Artifact} {text : String} (isText : a.content = .text text)
    (reading : String → List α) : a.read reading = reading text := by
  rw [read, isText]

/-- The qualified names in the code of an artifact. -/
def references (a : Artifact) : List (List String) :=
  a.read (readCode referencesIn)

theorem references_eq {a : Artifact} {text : String} (isText : a.content = .text text) :
    a.references = readCode referencesIn text :=
  read_eq isText _

/-- The qualified names between the brackets of the declarations of a type. -/
def fieldTypes (className : String) (a : Artifact) : List (List String) :=
  a.read fun text => (structBodies className text).flatMap referencesOf

/-- The qualified names in the constructor of an artifact. -/
def constructed (a : Artifact) : List (List String) :=
  a.read fun text => (functionBody? "new" text).elim [] referencesOf

end Artifact

namespace Names

variable {n : Names} {className : String}

theorem IsClass.isWord {id package : String} (owned : (ofId id package).IsClass className) :
    isWord className = true ∧ className ≠ "fn" := by
  refine ⟨isWord_of_isIdentifier owned.isIdentifier, ?_⟩
  rintro rfl
  exact owned.not_barred.2 (by decide)

theorem isWord_sanitize (s : String) : isWord (Naming.sanitize s) = true := by
  rw [isWord_iff, Naming.sanitize, String.toList_ofList]
  refine ⟨?_, fun c => Naming.isWordChar_of_mem_sanitizeChars⟩
  cases s.toList with
  | nil => exact List.cons_ne_nil _ _
  | cons c rest =>
      rw [Naming.sanitizeChars]
      split <;> exact List.cons_ne_nil _ _

/-- The qualified name of a generated type can be read back. -/
theorem IsClass.isQualified {id package : String} (owned : (ofId id package).IsClass className) :
    IsQualified ((ofId id package).classSegments className) where
  rooted := rfl
  notAlone := by simp [classSegments]
  words := by
    simp only [classSegments, List.cons_append, List.mem_cons, List.mem_append, List.mem_map,
      List.not_mem_nil, or_false]
    rintro s (rfl | ⟨piece, -, rfl⟩ | rfl | rfl)
    · decide
    · exact isWord_sanitize piece
    · exact isWord_of_isIdentifier (Naming.isFieldName_snake className).isIdentifier
    · exact owned.isWord.1
  last := by
    rw [classSegments, List.getLast?_append]
    simpa using owned.isWord.2

/-- The types of data models. -/
def modelClasses (n : Names) : List String :=
  [n.modelClass, n.inputModelClass, n.outputModelClass]

section Apart

/-! A qualified name does not refer to a data model and to another type of a core at once. -/

variable {m : Names} {other : String}

private theorem eq_of_append_class {front back : List String} {a b c d : String}
    (same : front ++ [a, b] = back ++ [c, d]) : b = d := by
  have last := (List.append_inj' same rfl).2
  simp only [List.cons.injEq] at last
  exact last.2.1

private theorem eq_of_append_item {front back : List String} {a b c d item : String}
    (same : front ++ [a, b] = back ++ [c, d] ++ [item]) : a = d := by
  have shown : back ++ [c, d] ++ [item] = (back ++ [c]) ++ [d, item] := by simp
  rw [shown] at same
  exact (List.cons.inj (List.append_inj' same rfl).2).1

/-- What refers to two types tells that they go by one name, or that one is named as the module of
    the other. -/
theorem eq_or_moduleOf_of_refersTo {r : List String}
    (first : RefersTo (n.classSegments className) r) (second : RefersTo (m.classSegments other) r) :
    className = other ∨ moduleOf className = other ∨ moduleOf other = className := by
  rcases first with rfl | ⟨item, rfl⟩
  · rcases second with same | ⟨item, same⟩
    · exact .inl (eq_of_append_class same)
    · exact .inr (.inl (eq_of_append_item same))
  · rcases second with same | ⟨item', same⟩
    · exact .inr (.inr (eq_of_append_item same.symm))
    · exact .inl (eq_of_append_class (List.append_inj' same rfl).1)

/-- A module is named in small letters. -/
theorem not_mem_moduleOf (className : String) : 'M' ∉ (moduleOf className).toList ∧
    'P' ∉ (moduleOf className).toList := by
  have small := (Naming.isFieldName_snake className).isSmall
  constructor
  · intro member
    exact absurd (small _ member) (by simp [Naming.IsSmall, Naming.OpensFieldName])
  · intro member
    exact absurd (small _ member) (by simp [Naming.IsSmall, Naming.OpensFieldName])

/-- The endings of data models, and those of the other types of a core. -/
private theorem endings_facts :
    (∀ ending ∈ ["Model", "ModelInput", "ModelOutput"], 'M' ∈ ending.toList ∧
      ending.toList.getLast? ∈ [some 'l', some 't']) ∧
    ∀ ending ∈ ["Process", "ProcessInstance"], 'P' ∈ ending.toList ∧
      ending.toList.getLast? ∈ [some 's', some 'e'] := by
  decide

theorem not_refersTo_both {r : List String} (isModel : className ∈ n.modelClasses)
    (isOther : other ∈ [m.processClass, m.instanceClass])
    (first : RefersTo (n.classSegments className) r) : ¬ RefersTo (m.classSegments other) r := by
  intro second
  have isEnding : className ∈ ["Model", "ModelInput", "ModelOutput"].map (n.stem ++ ·) := isModel
  have isEnding' : other ∈ ["Process", "ProcessInstance"].map (m.stem ++ ·) := isOther
  obtain ⟨ending, member, rfl⟩ := List.mem_map.1 isEnding
  obtain ⟨ending', member', rfl⟩ := List.mem_map.1 isEnding'
  obtain ⟨capital, last⟩ := endings_facts.1 ending member
  obtain ⟨capital', last'⟩ := endings_facts.2 ending' member'
  rcases eq_or_moduleOf_of_refersTo first second with same | same | same
  · have lasts := congrArg (fun s => s.toList.getLast?) same
    simp only [String.toList_append, List.getLast?_append] at lasts
    simp only [List.mem_cons, List.not_mem_nil, or_false] at last last'
    rcases last with l | l <;> rcases last' with l' | l' <;> simp [l, l'] at lasts
  · refine (not_mem_moduleOf (n.stem ++ ending)).2 ?_
    rw [same, String.toList_append]
    exact List.mem_append_right _ capital'
  · refine (not_mem_moduleOf (m.stem ++ ending')).1 ?_
    rw [same, String.toList_append]
    exact List.mem_append_right _ capital

end Apart

end Names

namespace ProcessUnit

variable {u : ProcessUnit}

/-- The texts that the comments of the pages of a process end with: each begins with what is
    quoted. -/
def remarks (u : ProcessUnit) : List String :=
  [u.definition.id ++ "`.", u.definition.displayName ++ "`."] ++ u.triggers.flatMap fun t =>
    [messageRemark t.name u.definition.id, t.name ++ "`.", t.name ++ "` to one instance."]

/-- The qualified names on lines that break out of the comments. -/
def spilledReferences (u : ProcessUnit) : List (List String) :=
  u.remarks.flatMap (readBelow referencesIn)

theorem mem_spilledReferences {remark : String} (member : remark ∈ u.remarks) :
    ∀ r ∈ readBelow referencesIn remark, r ∈ u.spilledReferences :=
  fun _ spilled => List.mem_flatMap.2 ⟨remark, member, spilled⟩

/-- Where nothing that is quoted has a line break, nothing is spilled. -/
theorem spilledReferences_eq_nil (whole : ∀ remark ∈ u.remarks, '\n' ∉ remark.toList) :
    u.spilledReferences = [] :=
  List.flatMap_eq_nil_iff.2 fun remark member => readBelow_eq_nil (whole remark member)

/-- A process that was lowered: its executable model and its data models come from its
    definition. -/
structure IsLowered (u : ProcessUnit) : Prop where
  executable : Executable.ofDefinition lower u.definition = .ok u.executable
  modelled : u.IsModelled
  fields : ∀ models, u.models = some models → ∀ m ∈ models.toList, ∀ f ∈ m.fields,
    ∃ v, f = ModelField.ofVariable v

end ProcessUnit

namespace Press

/-- What the pages of a process may refer to: types of its own core, the entry points of processes
    that it calls, and whatever breaks out of comments. -/
inductive MayRefer (press : Press) (u : ProcessUnit) (r : List String) : Prop
  | own {c : String × Category} (member : c ∈ u.coreClasses)
      (refers : RefersTo (u.names.classSegments c.1) r)
  | called {child : String} {names : Names}
      (calls : (u.executable.subProcesses.fields.get? child).isSome = true)
      (callable : press.callable.get? child = some names)
      (refers : RefersTo (names.classSegments names.processClass) r)
  | spilled (member : r ∈ u.spilledReferences)

variable {press : Press} {u : ProcessUnit}

section Triggers

/-! The triggers that pages are made for. -/

theorem distinctByName_subset (before : List String) (triggers : List Trigger) :
    distinctByName before triggers ⊆ triggers := by
  induction triggers generalizing before with
  | nil => exact List.Subset.refl _
  | cons t rest ih =>
      unfold distinctByName
      split
      · exact List.subset_cons_of_subset _ (ih _)
      · exact List.cons_subset_cons _ (ih _)

/-- A trigger that is kept is one of those of the process. -/
theorem mem_triggers_of_mem_distinct {kind : TriggerKind} {t : Trigger}
    (member : t ∈ u.distinctTriggers kind) : t ∈ u.triggers :=
  (List.mem_filter.1 (distinctByName_subset _ _ member)).1

theorem exists_trigger_of_endpoint {start : Bool} {e : SignalEndpoint}
    (member : e ∈ signalEndpoints u start) : ∃ t ∈ u.triggers, e = signalEndpoint t := by
  obtain ⟨t, kept, rfl⟩ := List.mem_map.1 member
  exact ⟨t, (List.mem_filter.1 (distinctByName_subset _ _ kept)).1, rfl⟩

/-- What a comment quotes of a trigger may break out of it. -/
theorem mayRefer_of_trigger {t : Trigger} (member : t ∈ u.triggers) {remark : String}
    (quoted : remark ∈ [messageRemark t.name u.definition.id, t.name ++ "`.",
      t.name ++ "` to one instance."]) :
    ∀ r ∈ readBelow referencesIn remark, press.MayRefer u r :=
  fun r spilled => .spilled (ProcessUnit.mem_spilledReferences
    (List.mem_append_right _ (List.mem_flatMap.2 ⟨t, member, quoted⟩)) r spilled)

theorem mayRefer_of_id :
    ∀ r ∈ readBelow referencesIn (u.definition.id ++ "`."), press.MayRefer u r :=
  fun r spilled => .spilled (ProcessUnit.mem_spilledReferences
    (List.mem_append_left _ (.head _)) r spilled)

theorem mayRefer_of_displayName :
    ∀ r ∈ readBelow referencesIn (u.definition.displayName ++ "`."), press.MayRefer u r :=
  fun r spilled => .spilled (ProcessUnit.mem_spilledReferences
    (List.mem_append_left _ (.tail _ (.head _))) r spilled)

end Triggers

section Own

/-! The types of the process itself. -/

theorem adds_class {className : String} (owned : u.names.IsClass className) :
    Adds (u.names.classModulePath className) [u.names.classSegments className] :=
  adds_path owned.isQualified

theorem mayRefer_class {className : String} {category : Category}
    (member : (className, category) ∈ u.coreClasses) :
    press.MayRefer u (u.names.classSegments className) ∧
      press.MayRefer u (u.names.classSegments className ++ ["new"]) :=
  ⟨.own member (.inl rfl), .own member (.inr ⟨"new", rfl⟩)⟩

theorem mentions_class {className : String} {category : Category}
    (member : (className, category) ∈ u.coreClasses) :
    Mentions (press.MayRefer u) (u.names.classModulePath className) :=
  ⟨_, by simpa using (mayRefer_class member).1,
    adds_class (ProcessUnit.isClass_of_mem_coreClasses member)⟩

theorem mentions_modelPath (modelled : u.IsModelled) {className : String}
    (isModel : className ∈ u.names.modelClasses) :
    Mentions (press.MayRefer u) (u.modelPath className) := by
  unfold ProcessUnit.modelPath
  split
  · rename_i hasModels
    rw [ProcessUnit.isSome_models modelled, Bool.not_eq_true'] at hasModels
    have inCore : (className, Category.model) ∈ u.coreClasses := by
      simp only [Names.modelClasses, List.mem_cons, List.not_mem_nil, or_false] at isModel
      rcases isModel with rfl | rfl | rfl <;> simp [ProcessUnit.coreClasses, hasModels]
    exact mentions_class inCore
  · exact mentions_of_isPart (by decide)

theorem mentions_payloadType {allowed : List String → Prop} (dataType : Option DataType) :
    Mentions allowed (payloadType dataType) := by
  cases dataType with
  | none => exact mentions_of_isPart (by decide)
  | some type => cases type <;> exact mentions_of_isPart (by decide)

theorem isReadable_processHandle (injection : Injection) :
    (injection.annotate (.processHandle u.processPath)).toPageField.IsReadable
      (press.MayRefer u) := by
  have member : (u.names.processClass, Category.process) ∈ u.coreClasses := by
    simp [ProcessUnit.coreClasses]
  have owned : u.names.IsClass u.names.processClass := ProcessUnit.isClass_of_mem_coreClasses member
  exact isReadable_handle injection rfl owned.isQualified rfl (mayRefer_class member).1
    (mayRefer_class member).2 (by decide : isWord "process" = true) (by decide : "process" ≠ "fn")

end Own

section Pages

/-! The pages of the process. -/

variable (lowered : u.IsLowered)

/-- A field of a called process comes from an entry of the called processes. -/
theorem field_of_mem_calledFields {called : List HostField} {f : HostField}
    (fields : press.calledFields u = .ok called) (member : f ∈ called) :
    ∃ child name names, (child, name) ∈ u.executable.subProcesses.fields.entries ∧
      press.callable.get? child = some names ∧
      f = .subProcess name (names.classModulePath names.processClass) := by
  obtain ⟨⟨child, name⟩, inEntries, made⟩ := exists_of_mem_mapM fields member
  obtain ⟨names, callable, isField⟩ := subProcessField_eq_ok made
  exact ⟨child, name, names, inEntries, callable, isField⟩

/-- Each process that is called has a field. -/
theorem exists_field_of_calls {called : List HostField}
    (fields : press.calledFields u = .ok called) {child : String} {names : Names}
    (calls : (u.executable.subProcesses.fields.get? child).isSome = true)
    (isCallable : press.callable.get? child = some names) :
    ∃ name, HostField.subProcess name (names.classModulePath names.processClass) ∈ called := by
  obtain ⟨name, inEntries⟩ := (Dict.isSome_get?_iff _ child).1 calls
  obtain ⟨f, inCalled, isField⟩ := exists_mem_of_mapM fields inEntries
  obtain rfl : f = .subProcess name (names.classModulePath names.processClass) := by
    simpa [subProcessField, isCallable, eq_comm] using isField
  exact ⟨name, inCalled⟩

include lowered

/-- The field of a called process is named after it. -/
theorem name_of_mem_entries {child name : String}
    (member : (child, name) ∈ u.executable.subProcesses.fields.entries) :
    name = Naming.subProcessField child := by
  obtain ⟨graph, called, -, found, isExecutable⟩ := Executable.ofDefinition_eq_ok lowered.executable
  rw [isExecutable] at member
  exact (((SubProcesses.records_ofDefinition found).mem_entries_iff child name).1 member).2

theorem isReadable_handler {h : String × String} (member : h ∈ u.executable.handlers.entries) :
    (PageHandler.mk h.1 h.2).IsReadable ∧ h.1 ≠ "new" := by
  obtain ⟨graph, called, isGraph, -, isExecutable⟩ :=
    Executable.ofDefinition_eq_ok lowered.executable
  have found : graph.handlers.get? h.1 = some h.2 := by
    rw [isExecutable] at member
    exact (lookup_eq_some_iff_mem graph.handlers.nodup_keys).2 member
  obtain ⟨n, -, made, isKey⟩ := (get?_handlers_of_lower isGraph).1 found
  obtain ⟨reads, opens⟩ := Lowering.reads_handler made
  obtain ⟨isIdentifier, free⟩ := Lowering.namesFunction_handlerKey n
  have other := Lowering.handlerKey_ne_new n
  rw [isKey] at reads isIdentifier free other
  refine ⟨⟨isWord_of_isIdentifier isIdentifier, ?_, opens, reads⟩, other⟩
  intro same
  rw [show h.1 = "fn" from same] at free
  exact free (by decide)

variable (callable : ∀ child names, press.callable.get? child = some names →
  ∃ id package, names = Names.ofId id package)

include callable

/-- The field of a called process holds its entry point. -/
theorem isReadable_called {called : List HostField} {f : HostField}
    (fields : press.calledFields u = .ok called) (member : f ∈ called) :
    (press.injection.annotate f).toPageField.IsReadable (press.MayRefer u) ∧ f.name ≠ "new" := by
  obtain ⟨child, name, names, inEntries, isCallable, rfl⟩ := field_of_mem_calledFields fields member
  obtain ⟨id, package, rfl⟩ := callable child names isCallable
  obtain rfl := name_of_mem_entries lowered inEntries
  have calls : (u.executable.subProcesses.fields.get? child).isSome = true :=
    (Dict.isSome_get?_iff _ child).2 ⟨_, inEntries⟩
  have owned : (Names.ofId id package).IsClass (Names.ofId id package).processClass :=
    .fixed (by simp [Names.fixedClasses])
  have last : ∀ word : String, word.toList.getLast? ≠ some 's' →
      Naming.subProcessField child ≠ word := by
    rintro word notS rfl
    exact notS (by simp [Naming.subProcessField, List.getLast?_append])
  have isName : isWord (Naming.subProcessField child) = true :=
    isWord_append (isWord_of_isIdentifier (Naming.isFieldName_snake child).isIdentifier) (by decide)
  exact ⟨isReadable_handle press.injection rfl owned.isQualified rfl
    (.called calls isCallable (.inl rfl)) (.called calls isCallable (.inr ⟨"new", rfl⟩)) isName
    (last "fn" (by decide)), last "new" (by decide)⟩

theorem isReadable_entryPage {called : List HostField}
    (fields : press.calledFields u = .ok called) :
    (press.entryPage u (.application :: called)).IsReadable (press.MayRefer u) where
  members := by
    have owned : u.names.IsClass u.names.processClass := .fixed (by simp [Names.fixedClasses])
    refine isReadable_ofFields press.injection owned.isWord.1 owned.isWord.2 ?_
    intro f member
    rcases List.mem_cons.1 member with rfl | inCalled
    · exact isReadable_application _
    · exact (isReadable_called lowered callable fields inCalled).1
  type := by
    have member : (u.names.instanceClass, Category.processInstance) ∈ u.coreClasses := by
      simp [ProcessUnit.coreClasses]
    exact mentions_class member
  created := by
    have member : (u.names.instanceClass, Category.processInstance) ∈ u.coreClasses := by
      simp [ProcessUnit.coreClasses]
    exact ⟨_, by simpa using (mayRefer_class member).2,
      adds_constructor (ProcessUnit.isClass_of_mem_coreClasses member).isQualified⟩
  definition := by
    obtain ⟨graph, found, isGraph, -, isExecutable⟩ :=
      Executable.ofDefinition_eq_ok lowered.executable
    have adds := adds_definition isGraph
    refine mentions_nothing ?_
    rwa [entryPage, isExecutable]
  handlers := by
    intro h member
    obtain ⟨entry, inEntries, rfl⟩ := List.mem_map.1 member
    exact (isReadable_handler lowered inEntries).1

omit callable

theorem isReadable_restPage : (press.restPage u).IsReadable (press.MayRefer u) where
  members := by
    have owned : u.names.IsClass u.names.resourceClass := .fixed (by simp [Names.fixedClasses])
    refine isReadable_ofFields press.injection owned.isWord.1 owned.isWord.2 ?_
    simp only [List.forall_mem_cons]
    exact ⟨isReadable_processHandle _, isReadable_application _, by simp⟩
  input := mentions_modelPath lowered.modelled (by simp [Names.modelClasses])
  output := mentions_modelPath lowered.modelled (by simp [Names.modelClasses])
  signals := by
    intro e member
    obtain ⟨t, -, rfl⟩ := (List.mem_append.1 member).elim exists_trigger_of_endpoint
      exists_trigger_of_endpoint
    dsimp only [signalEndpoint]
    exact ⟨isWord_of_isIdentifier (Naming.isFieldName_field t.name).isIdentifier,
      mentions_payloadType t.dataType⟩
  startRemarks := by
    intro e member
    obtain ⟨t, inTriggers, rfl⟩ := exists_trigger_of_endpoint member
    exact mayRefer_of_trigger inTriggers (.tail _ (.head _))
  instanceRemarks := by
    intro e member
    obtain ⟨t, inTriggers, rfl⟩ := exists_trigger_of_endpoint member
    exact mayRefer_of_trigger inTriggers (.tail _ (.tail _ (.head _)))

omit lowered

theorem isReadable_consumerPage {t : Trigger} (member : t ∈ u.triggers) :
    IsReadableMessaging (press.MayRefer u) (press.consumerPage u t).members t.name u.definition.id
      (payloadType t.dataType) where
  members := by
    have owned : u.names.IsClass (u.names.consumerClass t.name) := .consumer t.name
    refine isReadable_ofFields press.injection owned.isWord.1 owned.isWord.2 ?_
    simp only [List.forall_mem_cons]
    exact ⟨isReadable_processHandle _, isReadable_application _, by simp⟩
  payload := mentions_payloadType t.dataType
  remark := mayRefer_of_trigger member (.head _)

theorem isReadable_producerPage {t : Trigger} (member : t ∈ u.triggers) :
    IsReadableMessaging (press.MayRefer u) (press.producerPage u t).members t.name u.definition.id
      (payloadType t.dataType) where
  members := by
    have owned : u.names.IsClass (u.names.producerClass t.name) := .producer t.name
    refine isReadable_ofFields press.injection owned.isWord.1 owned.isWord.2 ?_
    simp only [List.forall_mem_cons]
    exact ⟨isReadable_emitter _ (mentions_payloadType t.dataType) _, by simp⟩
  payload := mentions_payloadType t.dataType
  remark := mayRefer_of_trigger member (.head _)

include lowered

theorem says_modelSheet {s : Sheet} (member : s ∈ modelSheets u) :
    ∃ fns, Says (press.MayRefer u) s.page.lines fns := by
  have inCore : s ∈ press.coreSheets u [] := List.mem_append_left _ member
  have owned := isClass_of_mem_coreSheets lowered.modelled inCore
  unfold modelSheets at member
  split at member
  · exact absurd member (List.not_mem_nil)
  · rename_i models isSome
    obtain ⟨m, inModels, rfl⟩ := List.mem_map.1 member
    refine ModelPage.says_lines owned.isWord.1 owned.isWord.2 ?_ mayRefer_of_id
    intro f inFields
    obtain ⟨field, isField, rfl⟩ := List.mem_map.1 inFields
    obtain ⟨v, rfl⟩ := lowered.fields models isSome m inModels field isField
    dsimp only [ModelField.ofVariable]
    refine ⟨isWord_of_isIdentifier (Naming.isFieldName_field v.name).isIdentifier, ?_⟩
    cases v.dataType <;> exact mentions_of_isPart (by decide)

theorem says_restSheet : Says (press.MayRefer u) (press.restPage u).lines
    (readBelow functionsIn (u.definition.id ++ "`.") ++
      readBelow functionsIn (u.definition.displayName ++ "`.") ++
      (if press.injection.injects then [] else ["new"]) ++ (press.restPage u).endpointFunctions) :=
  RestPage.says_lines (isReadable_restPage lowered)
    (says_quotingDoc (by decide) u.definition.displayName "`." mayRefer_of_displayName)
    mayRefer_of_id

include callable

/-- The pages of a process refer to nothing but what they may refer to. -/
theorem says_sheet {called : List HostField} (fields : press.calledFields u = .ok called)
    {s : Sheet} (inSheets : s ∈ press.coreSheets u called ++ press.optionalSheets u) :
    ∃ fns, Says (press.MayRefer u) s.page.lines fns := by
  rcases List.mem_append.1 inSheets with inCore | inOptional
  · simp only [coreSheets, List.mem_append, List.mem_cons, List.not_mem_nil, or_false] at inCore
    rcases inCore with inModels | rfl | rfl
    · exact says_modelSheet lowered inModels
    · exact EntryPage.says_lines (isReadable_entryPage lowered callable fields)
        (says_quotingDoc (by decide) u.definition.displayName "`." mayRefer_of_displayName)
        mayRefer_of_id
    · have owned : u.names.IsClass u.names.instanceClass := .fixed (by simp [Names.fixedClasses])
      exact InstancePage.says_lines owned.isWord.1 owned.isWord.2
        (mentions_modelPath lowered.modelled (by simp [Names.modelClasses])) mayRefer_of_id
  · rcases mem_optionalSheets.1 inOptional with ⟨-, rfl⟩ | ⟨t, kept, rfl⟩ | ⟨t, kept, rfl⟩
    · exact ⟨_, says_restSheet lowered⟩
    · have inTriggers := mem_triggers_of_mem_distinct kept
      exact ConsumerPage.says_lines (isReadable_consumerPage inTriggers)
        (says_messageDoc (by decide) (mayRefer_of_trigger inTriggers (.head _)))
    · have inTriggers := mem_triggers_of_mem_distinct kept
      exact ProducerPage.says_lines (isReadable_producerPage inTriggers)
        (says_messageDoc (by decide) (mayRefer_of_trigger inTriggers (.head _)))

section Entry

/-! The entry point and the processes that it calls. -/

variable {called : List HostField} (fields : press.calledFields u = .ok called)

include fields

/-- The type of the entry point holds the entry points of the processes that it calls. -/
theorem mem_fieldTypes_entrySheet {child : String} {names : Names}
    (calls : (u.executable.subProcesses.fields.get? child).isSome = true)
    (isCallable : press.callable.get? child = some names) :
    names.classSegments names.processClass ∈
      ((press.entrySheet u called).artifact u.names).fieldTypes u.names.processClass := by
  obtain ⟨body, isBody, holds⟩ :=
    EntryPage.exists_structBody (isReadable_entryPage lowered callable fields)
  obtain ⟨name, inCalled⟩ := exists_field_of_calls fields calls isCallable
  obtain ⟨id, package, rfl⟩ := callable child names isCallable
  have owned : (Names.ofId id package).IsClass (Names.ofId id package).processClass :=
    .fixed (by simp [Names.fixedClasses])
  have inFields : (press.injection.annotate (.subProcess name _)).toPageField ∈
      (press.entryPage u (.application :: called)).members.fields :=
    List.mem_map_of_mem (List.mem_cons_of_mem _ inCalled)
  have adds := adds_type (f := .subProcess name _) rfl owned.isQualified rfl
  have content : ((press.entrySheet u called).artifact u.names).content =
      .text (Page.entry (press.entryPage u (.application :: called))).text := rfl
  rw [Artifact.fieldTypes, Artifact.read_eq content]
  exact List.mem_flatMap.2 ⟨body, isBody, holds _ inFields _ adds (List.mem_singleton_self _)⟩

theorem new_not_mem_laterFunctions :
    "new" ∉ (press.entryPage u (.application :: called)).laterFunctions := by
  have fixed : "new" ∉ ["build_definition", "id", "definition", "create_instance", "handler"] := by
    decide
  have accessors : "new" ∉ ((press.entryPage u (.application :: called)).members.fields.filter
      PageField.isSubProcess).map PageField.name := by
    intro member
    obtain ⟨g, inFields, isNew⟩ := List.mem_map.1 member
    obtain ⟨f, inAll, rfl⟩ := List.mem_map.1 (List.mem_filter.1 inFields).1
    rcases List.mem_cons.1 inAll with rfl | inCalled
    · exact absurd isNew (by decide : "application" ≠ "new")
    · exact (isReadable_called lowered callable fields inCalled).2 isNew
  have handlers : "new" ∉ (press.entryPage u (.application :: called)).handlers.map
      PageHandler.key := by
    intro member
    obtain ⟨g, inHandlers, isNew⟩ := List.mem_map.1 member
    obtain ⟨h, inEntries, rfl⟩ := List.mem_map.1 inHandlers
    exact (isReadable_handler lowered inEntries).2 isNew
  simp only [EntryPage.laterFunctions, List.cons_append, List.mem_cons, List.mem_append,
    List.not_mem_nil, or_false] at fixed ⊢
  tauto

/-- Where fields are not handed in, the constructor of the entry point makes the entry points of the
    processes that it calls, and nothing else of the generated sources. -/
theorem mem_constructed_entrySheet_iff (explicit : press.injection = .none) (r : List String) :
    r ∈ ((press.entrySheet u called).artifact u.names).constructed ↔
      ∃ child names, (u.executable.subProcesses.fields.get? child).isSome = true ∧
        press.callable.get? child = some names ∧
        r = names.classSegments names.processClass ++ ["new"] := by
  have notInjected : (press.entryPage u (.application :: called)).members.injected = false := by
    rw [entryPage, Members.ofFields, explicit]
    rfl
  obtain ⟨body, isBody, made⟩ := EntryPage.references_new
    (isReadable_entryPage lowered callable fields) notInjected
    (new_not_mem_laterFunctions lowered callable fields)
  have content : ((press.entrySheet u called).artifact u.names).content =
      .text (Page.entry (press.entryPage u (.application :: called))).text := rfl
  have inits : ∀ name id package, Adds
      ((press.injection.annotate (.subProcess name ((Names.ofId id package).classModulePath
        (Names.ofId id package).processClass))).toPageField.init.getD "None")
      [(Names.ofId id package).classSegments (Names.ofId id package).processClass ++
        ["new"]] := by
    intro name id package
    have owned : (Names.ofId id package).IsClass (Names.ofId id package).processClass :=
      .fixed (by simp [Names.fixedClasses])
    rw [explicit]
    exact adds_initializer (f := .subProcess name _) rfl owned.isQualified rfl
  rw [Artifact.constructed, Artifact.read_eq content, isBody, Option.elim_some, made]
  constructor
  · rintro ⟨g, inFields, refs, adds, inRefs⟩
    obtain ⟨f, inAll, rfl⟩ := List.mem_map.1 inFields
    rcases List.mem_cons.1 inAll with rfl | inCalled
    · have application : Adds "procflow_runtime::Application::current()" [] :=
        adds_of_isPart (by decide)
      rw [explicit] at adds
      rw [adds.unique application] at inRefs
      exact absurd inRefs (List.not_mem_nil)
    · obtain ⟨child, name, names, inEntries, isCallable, rfl⟩ :=
        field_of_mem_calledFields fields inCalled
      obtain ⟨id, package, rfl⟩ := callable child names isCallable
      rw [adds.unique (inits name id package)] at inRefs
      exact ⟨child, _, (Dict.isSome_get?_iff _ child).2 ⟨name, inEntries⟩, isCallable,
        List.mem_singleton.1 inRefs⟩
  · rintro ⟨child, names, calls, isCallable, rfl⟩
    obtain ⟨name, inCalled⟩ := exists_field_of_calls fields calls isCallable
    obtain ⟨id, package, rfl⟩ := callable child names isCallable
    exact ⟨_, List.mem_map_of_mem (.tail _ inCalled), _, inits name id package,
      List.mem_singleton_self _⟩

end Entry

end Pages

/-- What a page refers to among the types of a core of the process is in that core, or breaks out of
    a comment. -/
theorem mem_coreClasses_of_mayRefer {className : String} {r : List String}
    (may : press.MayRefer u r)
    (own : className ∈ u.names.modelClasses ++ [u.names.processClass, u.names.instanceClass])
    (refers : RefersTo (u.names.classSegments className) r) :
    (∃ category, (className, category) ∈ u.coreClasses) ∨ r ∈ u.spilledReferences := by
  simp only [List.mem_append, List.mem_cons, List.not_mem_nil, or_false] at own
  rcases own with isModel | rfl | rfl
  · by_cases modelless : u.definition.kind.isModelless = true
    · refine .inr ?_
      cases may with
      | spilled member => exact member
      | called _ _ refers' =>
          exact absurd refers' (Names.not_refersTo_both isModel (.head _) refers)
      | own member refers' =>
          refine absurd refers' (Names.not_refersTo_both isModel ?_ refers)
          rw [ProcessUnit.coreClasses, if_pos modelless] at member
          simp only [List.nil_append, List.mem_cons, List.not_mem_nil, or_false] at member
          rcases member with rfl | rfl <;> simp
    · refine .inl ⟨.model, ?_⟩
      simp only [Names.modelClasses, List.mem_cons, List.not_mem_nil, or_false] at isModel
      rcases isModel with rfl | rfl | rfl <;> simp [ProcessUnit.coreClasses, modelless]
  · exact .inl ⟨.process, by simp [ProcessUnit.coreClasses]⟩
  · exact .inl ⟨.processInstance, by simp [ProcessUnit.coreClasses]⟩

end Press

end Flowsmith

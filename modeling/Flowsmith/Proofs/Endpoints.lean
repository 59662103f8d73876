import Flowsmith.Proofs.CoreConsistency
import Flowsmith.Proofs.FieldNames
import Flowsmith.Proofs.Messages
import Mathlib.Data.List.Perm.Basic
import Mathlib.Data.Set.Function

/-!
Endpoints of REST resources, as the functions that can be read off the text of a resource. The text
declares a function for each endpoint, and no two of the fixed ones or of the two kinds of signals
can share a name. But signals are told apart by their names, and their functions by the field names
that these come to: two signals of one kind that come to one field name share a function name as
well. Names that break out of their comments can declare functions of their own.
-/

namespace Flowsmith

open Source

/-- The functions that an artifact declares in its code. -/
def Artifact.functions (a : Artifact) : List String :=
  a.read (readCode functionsIn)

section Signals

/-- The signals of a node: one that starts the process, or one that is caught or thrown on its
    way. -/
inductive NodeKind.Signals : NodeKind → Bool → String → Prop
  | started {name : String} {dataType : Option DataType} :
      Signals (.start (some (.signal name dataType))) true name
  | caught {name : String} {dataType : Option DataType} :
      Signals (.catchEvent (.signal name dataType)) false name
  | attached {host : String} {name : String} {dataType : Option DataType} :
      Signals (.boundaryEvent host (.signal name dataType)) false name
  | thrown {name : String} {dataType : Option DataType} :
      Signals (.throwEvent (.signal name dataType)) false name

/-- A node outside of composites has the signal. -/
def Definition.HasSignal (d : Definition) (start : Bool) (name : String) : Prop :=
  ∃ n ∈ d.nodes, n.isTopLevel = true ∧ n.kind.Signals start name

/-- A trigger that a resource has an endpoint for. -/
structure Trigger.Exposes (t : Trigger) (start : Bool) (name : String) : Prop where
  kind : t.kind = .signal
  topLevel : t.topLevel = true
  start : t.start = start
  name : t.name = name

theorem Trigger.exists_exposes_iff (processId : String) {n : Node} {start : Bool} {name : String} :
    (∃ t, ofNode? processId n = some t ∧ t.Exposes start name) ↔
      n.isTopLevel = true ∧ n.kind.Signals start name := by
  constructor
  · rintro ⟨t, found, exposes⟩
    obtain ⟨raw, isSome, rfl⟩ := Option.map_eq_some_iff.1 found
    obtain ⟨kind, topLevel, rfl, rfl⟩ := exposes
    refine ⟨topLevel, ?_⟩
    change raw.kind = .signal at kind
    change n.kind.Signals raw.start raw.name
    split at isSome
    -- Only an event can be a signal; the other triggers are messages.
    case h_1 event same | h_2 event same | h_3 host event same | h_5 event _ same =>
      rw [same]
      cases isSome
      cases event with
      | signal name dataType => constructor
      | _ => exact absurd kind (by simp [ofEvent, ofMessage])
    all_goals cases isSome
    all_goals exact absurd kind (by simp [ofMessage])
  · rintro ⟨topLevel, signals⟩
    generalize same : n.kind = k at signals
    cases signals
    all_goals exact ⟨_, by rw [ofNode?, same]; rfl, rfl, topLevel, rfl, rfl⟩

/-- The triggers that are exposed are those of the signals outside of composites. -/
theorem Definition.exists_exposes_iff {d : Definition} {start : Bool} {name : String} :
    (∃ t ∈ d.triggers, t.Exposes start name) ↔ d.HasSignal start name := by
  simp only [triggers, List.mem_filterMap, HasSignal, ← Trigger.exists_exposes_iff d.id]
  constructor
  · rintro ⟨t, ⟨n, member, found⟩, exposes⟩
    exact ⟨n, member, t, found, exposes⟩
  · rintro ⟨n, member, t, found, exposes⟩
    exact ⟨t, ⟨n, member, found⟩, exposes⟩

theorem Channel.frame_settleByProperty (properties : Dict String) (t : Trigger) :
    ∃ channel resolution, (settleByProperty properties t).1 = { t with channel, resolution } := by
  unfold settleByProperty
  split
  · exact ⟨_, _, rfl⟩
  · split
    · exact ⟨_, _, rfl⟩
    · split <;> exact ⟨_, _, rfl⟩

/-- Settling changes nothing but channels and how they were found. -/
theorem Messaging.exists_settled_eq_map (m : Messaging) (d : Definition) :
    ∃ settle : Trigger → Trigger,
      (∀ t, ∃ channel resolution, settle t = { t with channel, resolution }) ∧
      m.settled d = d.triggers.map settle := by
  unfold settled
  split
  · refine ⟨_, Channel.frame_settleByProperty m.properties, ?_⟩
    rw [Channel.normalizeByProperties, List.map_map]
    rfl
  all_goals
    refine ⟨_, fun t => (Channel.settles_settle m.allBindings t).frame, ?_⟩
    rw [Channel.normalize, List.map_map]
    rfl

theorem Messaging.exists_exposes_settled_iff {m : Messaging} {d : Definition} {start : Bool}
    {name : String} : (∃ t ∈ m.settled d, t.Exposes start name) ↔ d.HasSignal start name := by
  obtain ⟨settle, frame, settled⟩ := m.exists_settled_eq_map d
  have exposes_iff (t : Trigger) : (settle t).Exposes start name ↔ t.Exposes start name := by
    obtain ⟨channel, resolution, same⟩ := frame t
    rw [same]
    exact ⟨fun ⟨kind, topLevel, start, name⟩ => ⟨kind, topLevel, start, name⟩,
      fun ⟨kind, topLevel, start, name⟩ => ⟨kind, topLevel, start, name⟩⟩
  simp only [settled, List.mem_map, exists_exists_and_eq_and, exposes_iff,
    Definition.exists_exposes_iff]

end Signals

section Endpoints

/-- Every name that was not there before is kept. -/
theorem mem_names_distinctByName {before : List String} {triggers : List Trigger} {name : String} :
    name ∈ (distinctByName before triggers).map Trigger.name ↔
      name ∈ triggers.map Trigger.name ∧ name ∉ before := by
  induction triggers generalizing before with
  | nil => simp [distinctByName]
  | cons t rest ih =>
      unfold distinctByName
      split
      · rename_i known
        rw [List.contains_iff_mem] at known
        rw [ih, List.map_cons, List.mem_cons]
        constructor
        · exact fun ⟨inRest, fresh⟩ => ⟨.inr inRest, fresh⟩
        · rintro ⟨rfl | inRest, fresh⟩
          · exact absurd known fresh
          · exact ⟨inRest, fresh⟩
      · rename_i unknown
        rw [List.contains_iff_mem] at unknown
        rw [List.map_cons, List.mem_cons, ih, List.map_cons, List.mem_cons, List.mem_append,
          List.mem_singleton]
        by_cases here : name = t.name
        · simp [here, unknown]
        · simp [here]

theorem nodup_names_distinctByName (before : List String) (triggers : List Trigger) :
    ((distinctByName before triggers).map Trigger.name).Nodup := by
  induction triggers generalizing before with
  | nil => exact .nil
  | cons t rest ih =>
      unfold distinctByName
      split
      · exact ih before
      · rw [List.map_cons, List.nodup_cons, mem_names_distinctByName]
        exact ⟨fun kept => kept.2 (by simp), ih _⟩

/-- The names of the signals that a process has endpoints for. -/
def Press.signalNames (u : ProcessUnit) (start : Bool) : List String :=
  (signalEndpoints u start).map SignalEndpoint.name

theorem Press.signalNames_eq (u : ProcessUnit) (start : Bool) :
    signalNames u start = (distinctByName [] (u.triggers.filter fun t =>
      t.kind == .signal && t.topLevel && t.start == start)).map Trigger.name := by
  rw [signalNames, signalEndpoints, List.map_map]
  rfl

theorem Press.nodup_signalNames (u : ProcessUnit) (start : Bool) : (signalNames u start).Nodup := by
  rw [signalNames_eq]
  exact nodup_names_distinctByName _ _

theorem Press.mem_signalNames {u : ProcessUnit} {start : Bool} {name : String} :
    name ∈ signalNames u start ↔ ∃ t ∈ u.triggers, t.Exposes start name := by
  rw [signalNames_eq, mem_names_distinctByName]
  simp only [List.mem_map, List.mem_filter, Bool.and_eq_true, beq_iff_eq, List.not_mem_nil,
    not_false_eq_true, and_true]
  constructor
  · rintro ⟨t, ⟨member, ⟨kind, topLevel⟩, start⟩, name⟩
    exact ⟨t, member, kind, topLevel, start, name⟩
  · rintro ⟨t, member, kind, topLevel, start, name⟩
    exact ⟨t, ⟨member, ⟨kind, topLevel⟩, start⟩, name⟩

/-- Endpoints go by the field names of their signals. -/
theorem Press.method_of_mem_signalEndpoints {u : ProcessUnit} {start : Bool} {e : SignalEndpoint}
    (member : e ∈ signalEndpoints u start) : e.method = Naming.field e.name := by
  obtain ⟨t, -, rfl⟩ := List.mem_map.1 member
  simp only [signalEndpoint]

/-- The function that a resource declares for a signal. -/
def signalFunction (start : Bool) (name : String) : String :=
  (if start then "start_" else "signal_") ++ Naming.field name

/-- The functions that a resource declares whatever its signals are. -/
def fixedFunctions (injected startable : Bool) : List String :=
  (if injected then [] else ["new"]) ++ (if startable then ["create"] else []) ++
  ["list", "get", "abort"]

/-- The functions that a resource declares. -/
def ownFunctions (injected startable : Bool) (starts others : List String) : List String :=
  fixedFunctions injected startable ++ starts.map (signalFunction true) ++
    others.map (signalFunction false)

/-- The functions that names declare where they break out of the comments of a resource: the id and
    the name of the process, and the names of its signals. -/
def spilledFunctions (id displayName : String) (starts others : List String) : List String :=
  readBelow functionsIn (id ++ "`.") ++ readBelow functionsIn (displayName ++ "`.") ++
    starts.flatMap (fun name => readBelow functionsIn (name ++ "`.")) ++
    others.flatMap fun name => readBelow functionsIn (name ++ "` to one instance.")

/-- Where no name breaks its line, nothing is spilled. -/
theorem spilledFunctions_eq_nil {id displayName : String} {starts others : List String}
    (whole : ∀ name ∈ id :: displayName :: starts ++ others, '\n' ∉ name.toList) :
    spilledFunctions id displayName starts others = [] := by
  have silent : ∀ name ∈ id :: displayName :: starts ++ others, ∀ ending : String,
      '\n' ∉ ending.toList → readBelow functionsIn (name ++ ending) = [] := by
    intro name member ending oneLine
    refine readBelow_eq_nil ?_
    rw [String.toList_append, List.mem_append, not_or]
    exact ⟨whole name member, oneLine⟩
  have starting : starts.flatMap (fun name => readBelow functionsIn (name ++ "`.")) = [] :=
    List.flatMap_eq_nil_iff.2 fun name member => silent name (by simp [member]) _ (by decide)
  have signalling : (others.flatMap fun name =>
      readBelow functionsIn (name ++ "` to one instance.")) = [] :=
    List.flatMap_eq_nil_iff.2 fun name member => silent name (by simp [member]) _ (by decide)
  rw [spilledFunctions, starting, signalling, silent id (by simp) _ (by decide),
    silent displayName (by simp) _ (by decide)]
  rfl

/-- What is declared beside what each element declares, taken apart. -/
theorem perm_flatMap_append_singleton {α β : Type} (xs : List α) (f : α → List β) (g : α → β) :
    (xs.flatMap fun x => f x ++ [g x]).Perm (xs.flatMap f ++ xs.map g) := by
  rw [List.map_eq_flatMap]
  exact (List.flatMap_append_perm xs f fun x => [g x]).symm

/-- Where nothing is declared beside, each element declares its own. -/
theorem flatMap_append_singleton {α β : Type} {xs : List α} {f : α → List β} (g : α → β)
    (silent : ∀ x ∈ xs, f x = []) : (xs.flatMap fun x => f x ++ [g x]) = xs.map g := by
  rw [List.map_eq_flatMap]
  exact List.flatMap_congr fun x member => by rw [silent x member, List.nil_append]

/-- The endpoints of a page by the names of their signals. -/
theorem Press.endpointFunctions_restPage (press : Press) (u : ProcessUnit) :
    (press.restPage u).endpointFunctions =
      (if u.executable.startable then ["create"] else []) ++ ["list", "get", "abort"] ++
      (signalNames u true).flatMap (fun name =>
        readBelow functionsIn (name ++ "`.") ++ [signalFunction true name]) ++
      (signalNames u false).flatMap fun name =>
        readBelow functionsIn (name ++ "` to one instance.") ++ [signalFunction false name] := by
  have starts : (signalEndpoints u true).flatMap (fun e =>
      readBelow functionsIn (e.name ++ "`.") ++ ["start_" ++ e.method]) =
        (signalNames u true).flatMap fun name =>
          readBelow functionsIn (name ++ "`.") ++ [signalFunction true name] := by
    rw [signalNames, List.flatMap_map]
    refine List.flatMap_congr fun e member => ?_
    rw [method_of_mem_signalEndpoints member]
    rfl
  have others : (signalEndpoints u false).flatMap (fun e =>
      readBelow functionsIn (e.name ++ "` to one instance.") ++ ["signal_" ++ e.method]) =
        (signalNames u false).flatMap fun name =>
          readBelow functionsIn (name ++ "` to one instance.") ++ [signalFunction false name] := by
    rw [signalNames, List.flatMap_map]
    refine List.flatMap_congr fun e member => ?_
    rw [method_of_mem_signalEndpoints member]
    rfl
  rw [RestPage.endpointFunctions, ← starts, ← others]
  rfl

/-- The function of a signal tells its kind, and the field name that it comes to. -/
theorem signalFunction_inj {start start' : Bool} {name name' : String} :
    signalFunction start name = signalFunction start' name' ↔
      start = start' ∧ Naming.field name = Naming.field name' := by
  unfold signalFunction
  -- What the field names are does not matter, only what stands before them.
  generalize Naming.field name = word
  generalize Naming.field name' = word'
  rw [← String.toList_inj]
  cases start <;> cases start' <;> simp [String.toList_inj]

theorem signalFunction_not_mem_fixedFunctions (start : Bool) (name : String)
    (injected startable : Bool) :
    signalFunction start name ∉ fixedFunctions injected startable := by
  -- The functions of signals of both kinds begin with one letter, and no other function does.
  have others : ∀ injected startable, ∀ word ∈ fixedFunctions injected startable,
      word.toList.head? ≠ some 's' := by
    decide
  intro member
  refine others injected startable _ member ?_
  unfold signalFunction
  generalize Naming.field name = word
  cases start <;> simp

theorem nodup_map_signalFunction_iff {start : Bool} {names : List String} (distinct : names.Nodup) :
    (names.map (signalFunction start)).Nodup ↔ Set.InjOn Naming.field {name | name ∈ names} := by
  simp only [List.nodup_map_iff_inj_on distinct, signalFunction_inj, true_and]
  exact ⟨fun apart a inNames b inNames' => apart a inNames b inNames',
    fun apart a inNames b inNames' => apart inNames inNames'⟩

/-- Functions of one kind of signals have names of their own exactly when the signals have field
    names of their own. No other functions share a name. -/
theorem nodup_ownFunctions_iff {injected startable : Bool} {starts others : List String}
    (distinct : starts.Nodup) (distinct' : others.Nodup) :
    (ownFunctions injected startable starts others).Nodup ↔
      Set.InjOn Naming.field {name | name ∈ starts} ∧
        Set.InjOn Naming.field {name | name ∈ others} := by
  have fixed : (fixedFunctions injected startable).Nodup := by
    revert injected startable
    decide
  have apart (start : Bool) (names : List String) :
      (fixedFunctions injected startable).Disjoint (names.map (signalFunction start)) := by
    intro word inFixed inNames
    obtain ⟨name, -, rfl⟩ := List.mem_map.1 inNames
    exact signalFunction_not_mem_fixedFunctions start name injected startable inFixed
  have kindsApart : (starts.map (signalFunction true)).Disjoint
      (others.map (signalFunction false)) := by
    intro word inStarts inOthers
    obtain ⟨name, -, rfl⟩ := List.mem_map.1 inStarts
    obtain ⟨name', -, same⟩ := List.mem_map.1 inOthers
    exact Bool.noConfusion (signalFunction_inj.1 same).1
  simp only [ownFunctions, List.nodup_append', List.disjoint_append_left, fixed, apart, kindsApart,
    true_and, and_true, nodup_map_signalFunction_iff distinct,
    nodup_map_signalFunction_iff distinct']

end Endpoints

theorem Executable.startable_ofDefinition {lower : Lower} {d : Definition} {e : Executable}
    (ok : ofDefinition lower d = .ok e) : e.startable = d.isStartable := by
  obtain ⟨graph, called, -, -, rfl⟩ := ofDefinition_eq_ok ok
  rfl

theorem Batch.mem_signalNames_iff {config : Config} {b : Batch} {u : ProcessUnit}
    (unit : u ∈ b.units config)
    {start : Bool} {name : String} :
    name ∈ Press.signalNames u start ↔ u.definition.HasSignal start name := by
  obtain ⟨l, lowered, rfl⟩ := List.mem_map.1 unit
  rw [Press.mem_signalNames, triggers_of_mem_lowered lowered]
  exact Messaging.exists_exposes_settled_iff

theorem Batch.content_of_mem_restArtifacts {config : Config} {b : Batch} {u : ProcessUnit}
    {a : Artifact} (made : .ok a ∈ (b.press config).restArtifacts u) :
    a.content = .text (Page.rest ((b.press config).restPage u)).text := by
  unfold Press.restArtifacts at made
  split at made
  · obtain ⟨text, rendered, rfl⟩ := Press.artifact_eq_ok.1 (List.mem_singleton.1 made).symm
    rw [press_engine] at rendered
    rw [← Except.ok.inj rendered]
  · exact absurd made (List.not_mem_nil)

/-- The functions of the resource of a process, read off its text. The lists are the names of the
    signals outside of composites: of those that start the process, and of the others. -/
structure Artifact.HasEndpoints (a : Artifact) (injected : Bool) (d : Definition)
    (starts others : List String) : Prop where
  nodup_starts : starts.Nodup
  mem_starts : ∀ name, name ∈ starts ↔ d.HasSignal true name
  nodup_others : others.Nodup
  mem_others : ∀ name, name ∈ others ↔ d.HasSignal false name
  /-- The functions are those of the resource and those that break out of comments. -/
  functions : a.functions.Perm (spilledFunctions d.id d.displayName starts others ++
    ownFunctions injected d.isStartable starts others)
  /-- No two functions share a name exactly when no two signals of one kind come to one field name,
      and what breaks out of comments adds no name twice and none that is there. -/
  nodup_iff : a.functions.Nodup ↔
    (spilledFunctions d.id d.displayName starts others).Nodup ∧
    (spilledFunctions d.id d.displayName starts others).Disjoint
      (ownFunctions injected d.isStartable starts others) ∧
    ∀ start, Set.InjOn Naming.field {name | d.HasSignal start name}
  /-- Where no name breaks its line, the functions are those of the resource alone. -/
  unbroken : (∀ name ∈ d.id :: d.displayName :: starts ++ others, '\n' ∉ name.toList) →
    a.functions = ownFunctions injected d.isStartable starts others ∧
    (a.functions.Nodup ↔ ∀ start, Set.InjOn Naming.field {name | d.HasSignal start name})

namespace Batch

variable {config : Config} {b : Batch} {u : ProcessUnit}

/-- The functions in the text of a resource, in order. -/
theorem functions_of_mem_restArtifacts (unit : u ∈ b.units config) {a : Artifact}
    (made : .ok a ∈ (b.press config).restArtifacts u) :
    a.functions = readBelow functionsIn (u.definition.id ++ "`.") ++
      readBelow functionsIn (u.definition.displayName ++ "`.") ++
      fixedFunctions config.injection.injects u.definition.isStartable ++
      (Press.signalNames u true).flatMap (fun name =>
        readBelow functionsIn (name ++ "`.") ++ [signalFunction true name]) ++
      (Press.signalNames u false).flatMap fun name =>
        readBelow functionsIn (name ++ "` to one instance.") ++ [signalFunction false name] := by
  have lowered := isLowered_of_mem_units unit
  rw [Artifact.functions, Artifact.read_eq (content_of_mem_restArtifacts made)]
  refine (Press.says_restSheet lowered).readCode_functions.trans ?_
  rw [Press.endpointFunctions_restPage, Executable.startable_ofDefinition lowered.executable,
    fixedFunctions]
  simp only [List.append_assoc]
  rfl

theorem perm_functions (unit : u ∈ b.units config) {a : Artifact}
    (made : .ok a ∈ (b.press config).restArtifacts u) :
    a.functions.Perm (spilledFunctions u.definition.id u.definition.displayName
        (Press.signalNames u true) (Press.signalNames u false) ++
      ownFunctions config.injection.injects u.definition.isStartable
        (Press.signalNames u true) (Press.signalNames u false)) := by
  rw [functions_of_mem_restArtifacts unit made, spilledFunctions, ownFunctions]
  refine List.perm_iff_count.2 fun word => ?_
  have starts := (perm_flatMap_append_singleton (Press.signalNames u true)
    (fun name => readBelow functionsIn (name ++ "`.")) (signalFunction true)).count_eq word
  have others := (perm_flatMap_append_singleton (Press.signalNames u false)
    (fun name => readBelow functionsIn (name ++ "` to one instance."))
    (signalFunction false)).count_eq word
  simp only [List.count_append] at starts others ⊢
  omega

/-- Where nothing is spilled, the functions are those of the resource, in order. -/
theorem functions_of_spilledFunctions_eq_nil (unit : u ∈ b.units config) {a : Artifact}
    (made : .ok a ∈ (b.press config).restArtifacts u)
    (silent : spilledFunctions u.definition.id u.definition.displayName
      (Press.signalNames u true) (Press.signalNames u false) = []) :
    a.functions = ownFunctions config.injection.injects u.definition.isStartable
      (Press.signalNames u true) (Press.signalNames u false) := by
  simp only [spilledFunctions, List.append_eq_nil_iff, List.flatMap_eq_nil_iff] at silent
  obtain ⟨⟨⟨ofId, ofName⟩, ofStarts⟩, ofOthers⟩ := silent
  rw [functions_of_mem_restArtifacts unit made, ofId, ofName,
    flatMap_append_singleton _ ofStarts, flatMap_append_singleton _ ofOthers]
  rfl

theorem injOn_signalNames_iff (unit : u ∈ b.units config) :
    (Set.InjOn Naming.field {name | name ∈ Press.signalNames u true} ∧
        Set.InjOn Naming.field {name | name ∈ Press.signalNames u false}) ↔
      ∀ start, Set.InjOn Naming.field {name | u.definition.HasSignal start name} := by
  simp only [mem_signalNames_iff unit, Bool.forall_bool]
  exact and_comm

end Batch

/-- A process that the given signals start, and that catches one on its way. -/
def Definition.signalled (starts : List String) (caught : String) : Definition :=
  { id := "a"
    package := "p"
    nodes := (starts.map fun name => { id := name, kind := .start (some (.signal name none)) }) ++
      [{ id := "caught", kind := .catchEvent (.signal caught none) }] }

/-- The batch of such a process. -/
def signalledBatch (starts : List String) (caught : String) : Batch :=
  .ofGathered false (Gathered.ofInput [.json] [.signalled starts caught] [])

/-- What the resource of a process that is alone in a batch declares, if no name breaks its line. -/
private theorem exists_resource (config : Config) (b : Batch) (functions : List String)
    (single : ((b.units config).map fun u => ((successes ((b.press config).restArtifacts u)).length,
      spilledFunctions u.definition.id u.definition.displayName
        (Press.signalNames u true) (Press.signalNames u false),
      ownFunctions config.injection.injects u.definition.isStartable
        (Press.signalNames u true) (Press.signalNames u false))) = [(1, [], functions)]) :
    ∃ u ∈ b.units config, ∃ a, .ok a ∈ (b.press config).restArtifacts u ∧
      a.functions = functions := by
  obtain ⟨u, units, facts⟩ := List.map_eq_singleton_iff.1 single
  obtain ⟨one, silent, declared⟩ := by simpa only [Prod.mk.injEq] using facts
  obtain ⟨a, only⟩ := List.length_eq_one_iff.1 one
  have unit : u ∈ b.units config := by simp [units]
  have made : .ok a ∈ (b.press config).restArtifacts u := by
    rw [← mem_successes, only]
    exact List.mem_singleton_self a
  exact ⟨u, unit, a, made,
    (Batch.functions_of_spilledFunctions_eq_nil unit made silent).trans declared⟩

end Flowsmith

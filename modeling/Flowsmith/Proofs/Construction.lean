import Flowsmith.Proofs.Accounting
import Flowsmith.Proofs.Calls
import Mathlib.Data.Fintype.Pigeonhole
import Mathlib.Data.Set.Finite.List
import Mathlib.Logic.Relation
import Mathlib.Order.WellFounded

/-!
Constructors of entry points. Where fields are not handed in, the constructor of a process makes the
entry points of the processes that it calls, and their constructors do the same. So a constructor
does not return exactly when its process leads into a cycle of calls, and such processes are
compiled without a record.
-/

namespace Flowsmith

section Chains

open Relation

/-- Where only finitely many steps have a source, steps go on without end from a start exactly when
    a cycle can be reached from there. -/
theorem exists_chain_iff {α : Type} {r : α → α → Prop}
    (finite : {a | ∃ b, r a b}.Finite) (start : α) :
    (∃ chain : Nat → α, chain 0 = start ∧ ∀ n, r (chain n) (chain (n + 1))) ↔
      ∃ a, ReflTransGen r start a ∧ TransGen r a a := by
  constructor
  · rintro ⟨chain, rfl, steps⟩
    have forward (i k : Nat) : ReflTransGen r (chain i) (chain (i + k)) := by
      induction k with
      | zero => exact .refl
      | succ k ih => exact ih.tail (steps (i + k))
    -- All sources are among finitely many, so the chain comes back to one of them.
    have : Finite {a | ∃ b, r a b} := finite
    obtain ⟨i, j, differ, same⟩ := Finite.exists_ne_map_eq_of_infinite
      fun n => (⟨chain n, _, steps n⟩ : {a | ∃ b, r a b})
    have same : chain i = chain j := congrArg Subtype.val same
    wlog before : i < j generalizing i j
    · exact this j i differ.symm (Subtype.ext same.symm) same.symm (by omega)
    obtain ⟨k, rfl⟩ := Nat.exists_eq_add_of_lt before
    refine ⟨chain i, by simpa using forward 0 i, ?_⟩
    have cycle : TransGen r (chain i) (chain (i + k + 1)) := .tail' (forward i k) (steps (i + k))
    rwa [← same] at cycle
  · rintro ⟨a, reached, cycle⟩
    -- What leads to the cycle has a step to something that does.
    have onward : ∀ b, ReflTransGen r b a → ∃ c, r b c ∧ ReflTransGen r c a := by
      intro b leads
      rcases leads.cases_head with rfl | ⟨c, step, rest⟩
      · exact TransGen.head'_iff.1 cycle
      · exact ⟨c, step, rest⟩
    have endless : ∀ b, Acc (fun c b => r b c) b → ¬ ReflTransGen r b a := by
      intro b accessible
      induction accessible with
      | intro b _ ih =>
          intro leads
          obtain ⟨c, step, rest⟩ := onward b leads
          exact ih c step rest
    exact not_acc_iff_exists_descending_chain.1 fun accessible => endless start accessible reached

end Chains

/-- A definition of a list calls another process. -/
def CallsAmong (ds : List Definition) (id child : String) : Prop :=
  ∃ d ∈ ds, d.id = id ∧ child ∈ d.calls

/-- The constructor in the source of a process makes the entry point of another. -/
def Output.Constructs (config : Config) (batch : Batch) (output : Output) (id child : String) :
    Prop :=
  ∃ caller ∈ batch.units config, ∃ callee ∈ batch.units config,
    caller.definition.id = id ∧ callee.definition.id = child ∧
    ∃ a, output.artifacts.get? (caller.names.classPath caller.names.processClass) = some a ∧
      callee.names.classSegments callee.names.processClass ++ ["new"] ∈ a.constructed

namespace Batch

variable {config : Config} {b : Batch}

section Clean

/-! What holds of an outcome without records. -/

variable {g : Gathered} {usePlaceholder : Bool} (distinct : (g.definitions.map Collected.id).Nodup)
  (clean : ((ofGathered usePlaceholder g).compile (.ofConfig config) config).errors = [])

include distinct clean

theorem compiled_of_clean {u : ProcessUnit}
    (member : u ∈ (ofGathered usePlaceholder g).units config) :
    u ∈ ((ofGathered usePlaceholder g).progress config).compiled := by
  refine compiled_of_mem_units (nodup_members_ofGathered distinct) member ?_
  apply Classical.byContradiction
  intro absent
  obtain ⟨r, recorded, -⟩ := exists_record_of_not_compiled member absent
  rw [clean] at recorded
  exact absurd recorded (List.not_mem_nil)

/-- Processes are told by the qualified names of their entry points. -/
theorem eq_of_classSegments_eq {u v : ProcessUnit}
    (member : u ∈ (ofGathered usePlaceholder g).units config)
    (other : v ∈ (ofGathered usePlaceholder g).units config)
    (equal : u.names.classSegments u.names.processClass =
      v.names.classSegments v.names.processClass) :
    u = v := by
  have resolves (w : ProcessUnit) (isUnit : w ∈ (ofGathered usePlaceholder g).units config) :=
    resolves_processClass (plainPackage_of_mem_units isUnit)
      (compiled_of_clean distinct clean isUnit)
  obtain ⟨a, found, declares⟩ := resolves u member
  obtain ⟨a', found', declares'⟩ := resolves v other
  rw [equal, found'] at found
  obtain rfl := Option.some.inj found
  exact eq_of_mem_units (nodup_members_ofGathered distinct) member other
    (Artifact.generatedFor_unique declares.generatedFor declares'.generatedFor)

/-- Every definition was lowered. -/
theorem exists_unit_of_clean {c : Collected} (member : c ∈ g.definitions) :
    ∃ u ∈ (ofGathered usePlaceholder g).units config, u.source = c := by
  simp only [compile_errors, List.append_eq_nil_iff, errors_ofGathered] at clean
  obtain ⟨⟨⟨-, noneIllFormed⟩, allLowered⟩, -⟩ := clean
  have isOk : c.definition.validate.isOk = true := by
    have noRecord := List.filterMap_eq_nil_iff.1 noneIllFormed (c, c.definition.validate)
      (List.mem_map_of_mem member)
    unfold validationError? at noRecord
    split at noRecord
    · assumption
    · exact absurd noRecord (by simp)
  have inMembers : c ∈ (ofGathered usePlaceholder g).members := by
    have fine : c ∈ wellFormed g := List.mem_filter.2 ⟨member, isOk⟩
    rw [members_ofGathered, List.isEmpty_eq_false_iff.2 (List.ne_nil_of_mem fine)]
    exact fine
  have listed : some c.id ∈ ((ofGathered usePlaceholder g).members.map fun c => some c.id) :=
    List.mem_map_of_mem inMembers
  rw [← (perm_lowered config _).mem_iff, allLowered, List.map_nil, List.append_nil] at listed
  obtain ⟨u, isUnit, sameId⟩ := List.mem_map.1 listed
  exact ⟨u, isUnit, List.inj_on_of_nodup_map (nodup_members_ofGathered distinct)
    (source_of_mem_units isUnit) inMembers (Option.some.inj sameId)⟩

theorem mem_compiled_of_clean {c : Collected} (member : c ∈ g.definitions) :
    c.id ∈ ((ofGathered usePlaceholder g).compile (.ofConfig config) config).compiled := by
  obtain ⟨u, isUnit, rfl⟩ := exists_unit_of_clean distinct clean member
  rw [compile_compiled]
  exact List.mem_map_of_mem (compiled_of_clean distinct clean isUnit)

/-- The units are those of definitions that call one another; the placeholder calls none. -/
theorem exists_unit_calling_iff (id child : String) :
    (∃ u ∈ (ofGathered usePlaceholder g).units config, u.definition.id = id ∧
      child ∈ u.definition.calls) ↔
      CallsAmong (g.definitions.map Collected.definition) id child := by
  constructor
  · rintro ⟨u, member, sameId, calls⟩
    rcases mem_members_ofGathered (source_of_mem_units member) with isPlaceholder | ⟨collected, -⟩
    · rw [ProcessUnit.definition, isPlaceholder] at calls
      exact absurd calls (by simp [Definition.calls, Collected.placeholder, Definition.placeholder])
    · exact ⟨u.definition, List.mem_map_of_mem collected, sameId, calls⟩
  · rintro ⟨d, isDefinition, sameId, calls⟩
    obtain ⟨c, collected, rfl⟩ := List.mem_map.1 isDefinition
    obtain ⟨u, member, rfl⟩ := exists_unit_of_clean distinct clean collected
    exact ⟨u, member, sameId, calls⟩

/-- Where fields are not handed in, the constructor in the source of a process makes the entry
    points of the processes that it calls. -/
theorem exists_constructed_iff (explicit : config.injection = .none) {caller : ProcessUnit}
    (member : caller ∈ (ofGathered usePlaceholder g).units config) :
    ∃ a, ((ofGathered usePlaceholder g).compile (.ofConfig config) config).artifacts.get?
        (caller.names.classPath caller.names.processClass) = some a ∧
      ∀ r, r ∈ a.constructed ↔ ∃ callee ∈ (ofGathered usePlaceholder g).units config,
        callee.definition.id ∈ caller.definition.calls ∧
          r = callee.names.classSegments callee.names.processClass ++ ["new"] := by
  have lowered := isLowered_of_mem_units member
  have isField := Executable.fields_ofDefinition lowered.executable
  obtain ⟨called, fields, held⟩ := held_core (compiled_of_clean distinct clean member)
  refine ⟨_, held (((ofGathered usePlaceholder g).press config).entrySheet caller called)
    (by simp [Press.coreSheets]), fun r => ?_⟩
  rw [Press.mem_constructed_entrySheet_iff lowered exists_ofId_of_callable fields explicit]
  constructor
  · rintro ⟨child, names, calls, callable, rfl⟩
    obtain ⟨callee, isUnit, rfl, rfl⟩ := callable_get? callable
    exact ⟨callee, isUnit, (isField _).1 calls, rfl⟩
  · rintro ⟨callee, isUnit, calls, rfl⟩
    obtain ⟨names, callable⟩ :=
      Option.isSome_iff_exists.1 (isSome_callable_iff.2 ⟨callee, isUnit, rfl⟩)
    obtain ⟨named, isUnit', sameId, rfl⟩ := callable_get? callable
    obtain rfl := eq_of_mem_units (nodup_members_ofGathered distinct) isUnit' isUnit sameId
    exact ⟨_, _, (isField _).2 calls, callable, rfl⟩

/-- Where fields are not handed in, the constructor of a process makes the entry points of those
    that its definition calls, and of no others. -/
theorem constructs_iff (explicit : config.injection = .none) (id child : String) :
    ((ofGathered usePlaceholder g).compile (.ofConfig config) config).Constructs config
        (ofGathered usePlaceholder g) id child ↔
      CallsAmong (g.definitions.map Collected.definition) id child := by
  rw [← exists_unit_calling_iff distinct clean]
  constructor
  · rintro ⟨caller, member, callee, isUnit, sameId, rfl, a, found, constructed⟩
    obtain ⟨a', found', made⟩ := exists_constructed_iff distinct clean explicit member
    obtain rfl := Option.some.inj (found.symm.trans found')
    obtain ⟨named, isUnit', calls, path⟩ := (made _).1 constructed
    -- The name that is written is the callee's, so it is the callee that is called.
    obtain rfl := eq_of_classSegments_eq distinct clean isUnit isUnit' (List.append_inj' path rfl).1
    exact ⟨caller, member, sameId, calls⟩
  · rintro ⟨caller, member, sameId, calls⟩
    obtain ⟨callee, isUnit, rfl⟩ :=
      (undisturbed_of_compiled (compiled_of_clean distinct clean member)).calls child calls
    obtain ⟨a, found, made⟩ := exists_constructed_iff distinct clean explicit member
    exact ⟨caller, member, callee, isUnit, sameId, rfl, a, found,
      (made _).2 ⟨callee, isUnit, calls, rfl⟩⟩

end Clean

end Batch

theorem finite_callsAmong (ds : List Definition) :
    {id | ∃ child, CallsAmong ds id child}.Finite := by
  refine (List.finite_toSet (ds.map Definition.id)).subset ?_
  rintro id ⟨child, d, member, rfl, -⟩
  exact List.mem_map_of_mem member

/-- The constructor of a process does not return: it calls one that calls another, and so on without
    end. -/
def Output.Unending (config : Config) (batch : Batch) (output : Output) (id : String) : Prop :=
  ∃ chain : Nat → String, chain 0 = id ∧
    ∀ n, output.Constructs config batch (chain n) (chain (n + 1))

/-- Two processes that call each other. -/
def callingBack : List Definition := [.calling "a" "b", .calling "b" "a"]

theorem run_callingBack :
    ((Gathered.ofInput [.json] callingBack []).definitions.map Collected.id).Nodup ∧
    ((Batch.ofGathered false (Gathered.ofInput [.json] callingBack [])).compile
      (.ofConfig .lenient) .lenient).errors = [] ∧
    Relation.TransGen (CallsAmong callingBack) "a" "a" := by
  refine ⟨by decide, by decide +kernel, ?_⟩
  have first : CallsAmong callingBack "a" "b" :=
    ⟨.calling "a" "b", by simp [callingBack], rfl, by decide⟩
  have second : CallsAmong callingBack "b" "a" :=
    ⟨.calling "b" "a", by simp [callingBack], rfl, by decide⟩
  exact .tail (.single first) second

end Flowsmith

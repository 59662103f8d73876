import Flowsmith.DataModel
import Flowsmith.Proofs.Dictionaries

/-!
Models that are kept for later. A store looks at no more of a definition than its id and its
variables before it answers with what it has. Models are made from no more than that either, so an
answer from the store is the one that deriving would have given, and a definition that is refused
leaves what the store has of its id.
-/

namespace Flowsmith

/-- The types of models are named by the id of a process, whatever its package. -/
theorem ModelKind.className_ofId (id package package' : String) (kind : ModelKind) :
    kind.className (Names.ofId id package) = kind.className (Names.ofId id package') := by
  cases kind <;> rfl

section Derivation

variable {d e : Definition} (ids : d.id = e.id) (declared : d.declarations = e.declarations)

include ids declared

theorem DataModel.derive_congr (options : ModelOptions) (kind : ModelKind) :
    derive options d kind = derive options e kind := by
  unfold derive
  rw [declared, ids, ModelKind.className_ofId e.id d.package e.package]

/-- Definitions with the same id and the same variables have the same models, or the same error. -/
theorem DataModels.derive_congr (options : ModelOptions) : derive options d = derive options e := by
  unfold derive
  simp only [DataModel.derive_congr ids declared]

end Derivation

namespace ModelStore

/-- What is stored for an id are the models of every definition of that id with the stored
    variables. -/
def Faithful (s : ModelStore) : Prop :=
  ∀ d m, s.get? d.id = some m → m.declarations = d.declarations →
    DataModels.derive s.options d = .ok m.models

theorem faithful_new (options : ModelOptions) : ({ options } : ModelStore).Faithful := by
  intro d m found
  exact absurd found (by simp [get?])

section Call

variable {s : ModelStore} {d : Definition}

/-- What a call does: it answers with what is stored for the same variables, and changes nothing; it
    is refused, and changes nothing; or it derives models and stores them in place of what the id
    had. -/
theorem generate_cases (s : ModelStore) (d : Definition) :
    (∃ m, s.get? d.id = some m ∧ m.declarations = d.declarations ∧ s.generate d = (.ok m, s)) ∨
    (∃ e, DataModels.derive s.options d = .error e ∧ s.generate d = (.error e, s)) ∨
    (∃ m, DataModels.derive s.options d = .ok m.models ∧ m.declarations = d.declarations ∧
      s.generate d =
        (.ok m, { s with stored := s.stored.insert d.id m, derived := s.derived + 1 })) := by
  cases current : s.current? d with
  | some m =>
      obtain ⟨found, same⟩ := Option.filter_eq_some_iff.1 current
      exact .inl ⟨m, found, eq_of_beq same, by simp only [generate, current]⟩
  | none =>
      cases derived : DataModels.derive s.options d with
      | error e => exact .inr (.inl ⟨e, rfl, by simp only [generate, current, derived]⟩)
      | ok models =>
          exact .inr (.inr ⟨⟨d.declarations, models, s.derived⟩, rfl, rfl, by
            simp only [generate, current, derived]⟩)

/-- A faithful store answers as if it had nothing. -/
theorem Faithful.answer (faithful : s.Faithful) (d : Definition) :
    (s.generate d).1.map StoredModels.models = DataModels.derive s.options d := by
  rcases generate_cases s d with ⟨m, found, same, result⟩ | ⟨e, refused, result⟩ |
    ⟨m, derived, -, result⟩
  · rw [result, faithful d m found same]
    rfl
  · rw [result, refused]
    rfl
  · rw [result, derived]
    rfl

theorem options_generate (s : ModelStore) (d : Definition) :
    (s.generate d).2.options = s.options := by
  rcases generate_cases s d with ⟨m, -, -, result⟩ | ⟨e, -, result⟩ | ⟨m, -, -, result⟩ <;>
    rw [result]

/-- After a call its id has the answer, if there was one; all else is as before. -/
theorem get?_generate (s : ModelStore) (d : Definition) (id : String) :
    (s.generate d).2.get? id =
      (if d.id = id then (s.generate d).1.toOption else none).or (s.get? id) := by
  rcases generate_cases s d with ⟨m, found, -, result⟩ | ⟨e, -, result⟩ | ⟨m, -, -, result⟩ <;>
    rw [result]
  · by_cases own : d.id = id
    · simp [← own, found, Except.toOption]
    · simp [own]
  · simp [Except.toOption]
  · by_cases own : d.id = id
    · simp [get?, own, Except.toOption]
    · simp [get?, own, Ne.symm own]

theorem Faithful.generate (faithful : s.Faithful) (d : Definition) : (s.generate d).2.Faithful := by
  rcases generate_cases s d with ⟨m, -, -, result⟩ | ⟨e, -, result⟩ | ⟨m, derived, same, result⟩ <;>
    rw [result]
  · exact faithful
  · exact faithful
  · intro e m' found declared
    by_cases own : e.id = d.id
    · obtain rfl : m = m' := by simpa [get?, own] using found
      rw [← derived]
      exact DataModels.derive_congr own (declared.symm.trans same) s.options
    · exact faithful e m' (by simpa [get?, own] using found) declared

end Call

/-- Ask for the models of one definition after the other: what each call answers, and the store
    after all of them. -/
def generateAll (s : ModelStore) :
    List Definition → List (Except ModelError StoredModels) × ModelStore
  | [] => ([], s)
  | d :: rest =>
      let called := s.generate d
      let later := called.2.generateAll rest
      (called.1 :: later.1, later.2)

/-- The answers of calls for an id that succeeded, in their order. -/
def successesOf (id : String) (calls : List Definition)
    (answers : List (Except ModelError StoredModels)) :
    List StoredModels :=
  (calls.zip answers).filterMap fun call => if call.1.id = id then call.2.toOption else none

/-- The last success of a call and those after it: one of those after it, else its own. -/
theorem getLast?_successesOf_cons (id : String) (d : Definition) (calls : List Definition)
    (answer : Except ModelError StoredModels) (answers : List (Except ModelError StoredModels)) :
    (successesOf id (d :: calls) (answer :: answers)).getLast? =
      (successesOf id calls answers).getLast?.or (if d.id = id then answer.toOption else none) := by
  simp only [successesOf, List.zip_cons_cons, List.filterMap_cons]
  cases (if d.id = id then answer.toOption else none) with
  | none => rw [Option.or_none]
  | some m => rw [List.getLast?_cons, Option.or_some]

section Run

variable {s : ModelStore}

theorem Faithful.answers (faithful : s.Faithful) (calls : List Definition) :
    (s.generateAll calls).1.map (Except.map StoredModels.models) = calls.map
    (DataModels.derive s.options) := by
  induction calls generalizing s with
  | nil => rfl
  | cons d rest ih =>
      have later := ih (faithful.generate d)
      rw [options_generate] at later
      rw [generateAll, List.map_cons, List.map_cons, faithful.answer, later]

theorem get?_generateAll (s : ModelStore) (calls : List Definition) (id : String) :
    (s.generateAll calls).2.get? id =
      (successesOf id calls (s.generateAll calls).1).getLast?.or (s.get? id) := by
  induction calls generalizing s with
  | nil => rfl
  | cons d rest ih =>
      rw [generateAll]
      simp only
      rw [getLast?_successesOf_cons, ih, get?_generate, Option.or_assoc]

end Run

/-- A store that begins with nothing gives itself away in no answer: each call, whatever came before
    it, answers with the models or the error that deriving gives for its definition, and after all
    of them an id has the last answer that a call for it succeeded with. -/
theorem generateAll_transparent (options : ModelOptions) (calls : List Definition) :
    let run := ({ options } : ModelStore).generateAll calls
    run.1.map (Except.map StoredModels.models) = calls.map (DataModels.derive options) ∧
      ∀ id, run.2.get? id = (successesOf id calls run.1).getLast? := by
  refine ⟨(faithful_new options).answers calls, fun id => ?_⟩
  rw [get?_generateAll]
  exact Option.or_none

end ModelStore

end Flowsmith

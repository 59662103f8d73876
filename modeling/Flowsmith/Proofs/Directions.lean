import Flowsmith.Config.Read
import Flowsmith.Proofs.Channels
import Mathlib.Data.Fintype.EquivFin

/-!
Whether messages keep to channels of their direction. Configured channels are looked for in the
direction of the trigger. Defaults are not: a declared binding may claim the default of the
direction that is not its own.
-/

namespace Flowsmith

namespace Channel

/-- Where a settled trigger of a direction ends up. -/
structure IsOnChannel (bindings : List Binding) (d : Direction) (t : Trigger) : Prop where
  explicit : t.resolution = .explicit →
    ∃ channel, t.channel = some channel ∧ IsBound bindings channel d
  defaulted : t.resolution = .defaulted →
    ∃ b, IsFirstDefault bindings d b ∧ t.channel = some b.name

/-- Pending triggers of a direction that get a channel get one that is bound in that direction. -/
def KeepsDirection (bindings : List Binding) (d : Direction) : Prop :=
  ∀ triggers : List Trigger, (∀ t ∈ triggers, t.resolution = .pending) →
    ∀ t ∈ (normalize bindings triggers).triggers, Direction.ofKind? t.kind = some d →
      t.resolution = .explicit ∨ t.resolution = .defaulted →
        ∃ channel, t.channel = some channel ∧ IsBound bindings channel d

section Keeping

variable {bindings : List Binding} {d : Direction}

theorem isOnChannel_settle {t : Trigger} (pending : t.resolution = .pending)
    (moves : Direction.ofKind? (settle bindings t).1.kind = some d) :
    IsOnChannel bindings d (settle bindings t).1 := by
  rcases settle_cases bindings t with ⟨-, result⟩ | ⟨d', awaits, outcome⟩
  · rw [result]
    exact ⟨fun explicit => by simp [pending] at explicit,
      fun defaulted => by simp [pending] at defaulted⟩
  · have same : d' = d := by
      obtain ⟨channel, resolution, frame⟩ := (settles_settle bindings t).frame
      rw [frame] at moves
      exact Option.some.inj (awaits.1.symm.trans moves)
    subst same
    rcases outcome with ⟨bound, result⟩ | ⟨-, b, first, result⟩ | ⟨-, -, result⟩ <;> rw [result]
    · exact ⟨fun _ => ⟨_, rfl, bound⟩, fun defaulted => by simp [Trigger.settle] at defaulted⟩
    · exact ⟨fun explicit => by simp [Trigger.settle] at explicit, fun _ => ⟨b, first, rfl⟩⟩
    · exact ⟨fun explicit => by simp [Trigger.settle] at explicit,
        fun defaulted => by simp [Trigger.settle] at defaulted⟩

theorem isOnChannel_of_mem_normalize {triggers : List Trigger}
    (pending : ∀ t ∈ triggers, t.resolution = .pending) {t : Trigger}
    (member : t ∈ (normalize bindings triggers).triggers)
    (moves : Direction.ofKind? t.kind = some d) :
    IsOnChannel bindings d t := by
  simp only [normalize, List.map_map, List.mem_map] at member
  obtain ⟨given, isGiven, rfl⟩ := member
  exact isOnChannel_settle (pending given isGiven) moves

theorem exists_not_isBound (bindings : List Binding) (d : Direction) :
    ∃ name, ¬ IsBound bindings name d := by
  obtain ⟨name, fresh⟩ := Infinite.exists_notMem_finset (bindings.map Binding.name).toFinset
  refine ⟨name, ?_⟩
  rintro ⟨b, member, rfl, -⟩
  exact fresh (by simpa using ⟨b, member, rfl⟩)

/-- Directions are kept exactly where the default is a channel of its direction. -/
theorem keepsDirection_iff :
    KeepsDirection bindings d ↔ ∀ b, IsFirstDefault bindings d b → IsBound bindings b.name d := by
  constructor
  · -- A trigger whose own channel is not bound shows where the default leads.
    intro keeps b first
    obtain ⟨name, unbound⟩ := exists_not_isBound bindings d
    have moving : ∃ kind, Direction.ofKind? kind = some d := by
      cases d
      · exact ⟨.consume, rfl⟩
      · exact ⟨.produce, rfl⟩
    obtain ⟨kind, moves⟩ := moving
    let t : Trigger := { processId := "", ownerId := "", kind, name }
    have settled : settle bindings t = (t.settle b.name .defaulted, none) :=
      settle_default ⟨moves, rfl⟩ unbound first
    have member : t.settle b.name .defaulted ∈ (normalize bindings [t]).triggers := by
      simp [normalize, settled]
    obtain ⟨channel, isName, bound⟩ := keeps [t] (by simp [t]) _ member moves (.inr rfl)
    cases isName
    exact bound
  · intro defaults triggers pending t member moves settled
    have on := isOnChannel_of_mem_normalize pending member moves
    rcases settled with explicit | defaulted
    · exact on.explicit explicit
    · obtain ⟨b, first, isName⟩ := on.defaulted defaulted
      exact ⟨b.name, isName, defaults b first⟩

end Keeping

end Channel

namespace Binding

theorem isDefaultFor_asDefault_iff {b : Binding} {d : Direction} :
    b.asDefault.isDefaultFor d = true ↔ b.isDefaultFor d = true ∨ b.direction = d := by
  obtain ⟨name, direction, input, output⟩ := b
  cases direction <;> cases d <;> simp [asDefault, isDefaultFor]

/-- A claim that a binding gets as the default of its direction is for that direction. -/
theorem isDefaultFor_of_asDefault {b : Binding} {d : Direction}
    (claims : b.asDefault.isDefaultFor d = true)
    (other : b.direction ≠ d) : b.isDefaultFor d = true :=
  (isDefaultFor_asDefault_iff.1 claims).resolve_right other

@[simp] theorem name_asDefault (b : Binding) : b.asDefault.name = b.name := by
  unfold asDefault
  cases b.direction <;> rfl

@[simp] theorem direction_asDefault (b : Binding) : b.asDefault.direction = b.direction := by
  unfold asDefault
  cases direction : b.direction <;> rfl

end Binding

namespace Messaging

open Channel

/-- Bindings that claim the default of the other direction are among the declared ones. -/
def Declares (declared bindings : List Binding) : Prop :=
  ∀ c ∈ bindings, ∀ d, c.isDefaultFor d = true → c.direction ≠ d →
    ∃ b ∈ declared, b.name = c.name ∧ b.direction = c.direction ∧ b.isDefaultFor d = true

section Adding

variable {declared bindings : List Binding}

theorem declares_self (declared : List Binding) : Declares declared declared :=
  fun c member _ claims _ => ⟨c, member, rfl, rfl, claims⟩

theorem Declares.addConnector (declares : Declares declared bindings) (property : String) :
    Declares declared (addConnector bindings property) := by
  unfold Messaging.addConnector
  split
  · exact declares
  · split
    · exact declares
    · intro c member d claims
      rcases List.mem_append.1 member with old | new
      · exact declares c old d claims
      · cases List.mem_singleton.1 new
        cases d <;> simp [Binding.isDefaultFor] at claims

theorem Declares.claimDefault (declares : Declares declared bindings) (name : String)
    (direction : Direction) : Declares declared (claimDefault name direction bindings) := by
  induction bindings with
  | nil =>
      intro c member d claims other
      cases List.mem_singleton.1 member
      have unclaimed := Binding.isDefaultFor_of_asDefault claims (by simpa using other)
      cases d <;> simp [Binding.isDefaultFor] at unclaimed
  | cons b rest ih =>
      have ofRest : Declares declared rest := fun c member => declares c (.tail b member)
      unfold Messaging.claimDefault
      split
      · intro c member d claims other
        rcases List.mem_cons.1 member with rfl | old
        · have own : b.direction ≠ d := by simpa using other
          simpa using declares b (.head rest) d (Binding.isDefaultFor_of_asDefault claims own) own
        · exact ofRest c old d claims other
      · intro c member d claims other
        rcases List.mem_cons.1 member with rfl | old
        · exact declares c (.head rest) d claims other
        · exact ih ofRest c old d claims other

theorem Declares.addDefault (declares : Declares declared bindings) (properties : Dict String)
    (direction : Direction) : Declares declared (addDefault properties bindings direction) := by
  unfold Messaging.addDefault
  split
  · exact declares
  · exact declares.claimDefault _ direction

theorem Declares.foldl {α : Type} {step : List Binding → α → List Binding}
    (keeps : ∀ {bindings}, Declares declared bindings → ∀ a, Declares declared (step bindings a))
    (as : List α) (declares : Declares declared bindings) :
    Declares declared (as.foldl step bindings) := by
  induction as generalizing bindings with
  | nil => exact declares
  | cons a rest ih => exact ih (keeps declares a)

theorem declares_allBindings (m : Messaging) : Declares m.bindings m.allBindings := by
  have connected : Declares m.bindings
      (m.properties.keys.foldl Messaging.addConnector m.bindings) :=
    (declares_self m.bindings).foldl (fun declares => declares.addConnector) _
  exact connected.foldl (fun declares => declares.addDefault m.properties) _

end Adding

/-- Configured channels are bound in the direction of the trigger, and default ones are the first
    that claim it. So directions are kept exactly where that one is bound in its direction, and
    where they are not, it is because of a declared binding of the other direction. -/
theorem channel_of_normalize (m : Messaging) (d : Direction) :
    (∀ triggers : List Trigger, (∀ t ∈ triggers, t.resolution = .pending) →
      ∀ t ∈ (normalize m.allBindings triggers).triggers, Direction.ofKind? t.kind = some d →
        IsOnChannel m.allBindings d t) ∧
    (KeepsDirection m.allBindings d ↔
      ∀ b, IsFirstDefault m.allBindings d b → IsBound m.allBindings b.name d) ∧
    (¬ KeepsDirection m.allBindings d →
      ∃ b ∈ m.bindings, b.isDefaultFor d = true ∧ b.direction ≠ d ∧
        ¬ IsBound m.allBindings b.name d) := by
  refine ⟨?_, keepsDirection_iff, ?_⟩
  · intro triggers pending t member moves
    exact isOnChannel_of_mem_normalize pending member moves
  · intro broken
    have unbound : ∃ c, IsFirstDefault m.allBindings d c ∧ ¬ IsBound m.allBindings c.name d := by
      simpa [keepsDirection_iff] using broken
    obtain ⟨c, ⟨before, after, split, claims, -⟩, unbound⟩ := unbound
    have member : c ∈ m.allBindings := by simp [split]
    have other : c.direction ≠ d := fun own => unbound ⟨c, member, rfl, own⟩
    obtain ⟨b, declared, sameName, sameDirection, claimed⟩ :=
      declares_allBindings m c member d claims other
    rw [← sameDirection] at other
    rw [← sameName] at unbound
    exact ⟨b, declared, claimed, other, unbound⟩

/-- A document that makes an output channel the default of inputs is accepted. -/
theorem not_keepsDirection_of_text :
    ¬ ∀ (text : String) (config : Config), Config.ofText text = .ok config →
      ∀ d, KeepsDirection config.messaging.allBindings d := by
  intro keeps
  let out : Binding := { name := "out", direction := .output, defaultInput := true }
  have accepted : Config.ofText ("\x7b\"messaging\":\x7b\"bindings\":[\x7b\"name\":\"out\"," ++
      "\"direction\":\"output\",\"defaultInput\":true\x7d]\x7d\x7d") =
        .ok { messaging := { bindings := [out] } } := rfl
  have first : IsFirstDefault [out] .input out := ⟨[], [], rfl, rfl, by simp⟩
  obtain ⟨b, member, -, isInput⟩ := keepsDirection_iff.1 (keeps _ _ accepted .input) out first
  cases List.mem_singleton.1 member
  cases isInput

end Messaging

end Flowsmith

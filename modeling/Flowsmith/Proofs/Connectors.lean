import Flowsmith.Proofs.Dictionaries
import Flowsmith.Proofs.Directions

/-!
Connector properties and the bindings that follow from them. A property is built from the name of a
channel, and names are read back out of properties, whatever is in them: dots, the words that
properties are made of, or the whole of another property. So the two ways to settle a trigger, by
its property and by the bindings, come to the same channel when a connector is configured for it.
-/

namespace Flowsmith

namespace Direction

/-- The channel of a property is read back from it, unless it has no name. -/
theorem connectorChannel?_eq_some_iff {d : Direction} {property channel : String} :
    d.connectorChannel? property = some channel ↔
      channel ≠ "" ∧ property = d.connectorProperty channel := by
  have dotted : d.connectorProperty channel =
      d.propertyRoot ++ ("." ++ (channel ++ ".connector")) := by
    simp only [connectorProperty, String.append_assoc]
  simp only [connectorChannel?, Option.bind_eq_bind, Option.bind_eq_some_iff,
    Text.after?_eq_some_iff, Text.before?_eq_some_iff, Option.ite_none_left_eq_some,
    Option.some.injEq, dotted]
  constructor
  · rintro ⟨rest, rfl, rest', rfl, name, rfl, notEmpty, rfl⟩
    exact ⟨notEmpty, rfl⟩
  · rintro ⟨notEmpty, rfl⟩
    exact ⟨_, rfl, _, rfl, channel, rfl, notEmpty, rfl⟩

/-- No property configures channels of both directions. -/
theorem connectorProperty_ne (input output : String) :
    Direction.input.connectorProperty input ≠ Direction.output.connectorProperty output := by
  intro same
  have tenth := congrArg (fun property => property.toList[10]?) same
  simp [connectorProperty, propertyRoot] at tenth

end Direction

@[simp] theorem Binding.isDefaultFor_mk (name : String) (direction d : Direction) :
    ({ name, direction } : Binding).isDefaultFor d = false := by
  cases d <;> rfl

/-- Some binding claims the default of a direction. -/
def Channel.HasDefault (bindings : List Binding) (d : Direction) : Prop :=
  ∃ b ∈ bindings, b.isDefaultFor d = true

namespace Messaging

open Channel

/-- A property configures one channel of one direction at most. -/
theorem connector?_eq_some_iff {property channel : String} {d : Direction} :
    connector? property = some (channel, d) ↔
      channel ≠ "" ∧ property = d.connectorProperty channel := by
  rw [← Direction.connectorChannel?_eq_some_iff]
  cases input : Direction.input.connectorChannel? property with
  | none => cases d <;> simp [connector?, input]
  | some name =>
      obtain ⟨-, isInput⟩ := Direction.connectorChannel?_eq_some_iff.1 input
      have notOutput : Direction.output.connectorChannel? property = none := by
        rw [Option.eq_none_iff_forall_ne_some]
        intro other found
        obtain ⟨-, isOutput⟩ := Direction.connectorChannel?_eq_some_iff.1 found
        exact Direction.connectorProperty_ne name other (isInput.symm.trans isOutput)
      cases d <;> simp [connector?, input, notOutput]

/-- Where a step adds to what holds and takes nothing away, all the steps add what one of them
    does. -/
theorem holds_foldl_iff {α β : Type} (holds : β → Prop) {step : β → α → β} {adds : α → Prop}
    (each : ∀ b a, holds (step b a) ↔ holds b ∨ adds a) (as : List α) (b : β) :
    holds (as.foldl step b) ↔ holds b ∨ ∃ a ∈ as, adds a := by
  induction as generalizing b with
  | nil => simp
  | cons a rest ih =>
      rw [List.foldl_cons, ih, each]
      simp only [List.mem_cons, exists_eq_or_imp, or_assoc]

section Bound

variable {name : String} {d : Direction}

theorem isBound_cons {b : Binding} {bindings : List Binding} :
    IsBound (b :: bindings) name d ↔ (b.name = name ∧ b.direction = d) ∨
      IsBound bindings name d := by
  simp only [IsBound, List.mem_cons, exists_eq_or_imp]

theorem isBound_addConnector (bindings : List Binding) (property : String) :
    IsBound (addConnector bindings property) name d ↔
      IsBound bindings name d ∨ connector? property = some (name, d) := by
  unfold addConnector
  split
  case h_1 none => simp [none]
  case h_2 channel direction some =>
      rw [some, Option.some.injEq, Prod.mk.injEq]
      split
      case isTrue found =>
          -- What is bound already is bound for this property too.
          constructor
          · exact .inl
          · rintro (before | ⟨rfl, rfl⟩)
            · exact before
            · exact any_isFor_iff.1 found
      case isFalse => simp [IsBound, or_and_right, exists_or]

theorem isBound_claimDefault (channel : String) (direction : Direction) (bindings : List Binding) :
    IsBound (claimDefault channel direction bindings) name d ↔
      IsBound bindings name d ∨ (channel = name ∧ direction = d) := by
  induction bindings with
  | nil => simp [claimDefault, IsBound]
  | cons b rest ih =>
      unfold claimDefault
      split
      case isTrue same =>
          obtain ⟨rfl, rfl⟩ : b.name = channel ∧ b.direction = direction := by
            simpa [Binding.isFor] using same
          rw [isBound_cons, isBound_cons, Binding.name_asDefault, Binding.direction_asDefault]
          tauto
      case isFalse => rw [isBound_cons, isBound_cons, ih, or_assoc]

theorem isBound_addDefault (properties : Dict String) (bindings : List Binding)
    (direction : Direction) :
    IsBound (addDefault properties bindings direction) name d ↔
      IsBound bindings name d ∨
        (properties.get? direction.defaultProperty = some name ∧ direction = d) := by
  unfold addDefault
  split
  case h_1 none => simp [none]
  case h_2 channel some => rw [isBound_claimDefault, some, Option.some.injEq]

/-- A channel is bound if it is declared, if it has a connector, or if it is the default of its
    direction. -/
theorem isBound_allBindings_iff (m : Messaging) :
    IsBound m.allBindings name d ↔
      IsBound m.bindings name d ∨
        (name ≠ "" ∧ m.properties.contains (d.connectorProperty name) = true) ∨
        m.properties.get? d.defaultProperty = some name := by
  have connected : (∃ property ∈ m.properties.keys, connector? property = some (name, d)) ↔
      name ≠ "" ∧ m.properties.contains (d.connectorProperty name) = true := by
    simp only [connector?_eq_some_iff, Dict.mem_keys_iff]
    constructor
    · rintro ⟨property, present, named, rfl⟩
      exact ⟨named, present⟩
    · rintro ⟨named, present⟩
      exact ⟨_, present, named, rfl⟩
  have default : (∃ direction ∈ [Direction.input, Direction.output],
      m.properties.get? direction.defaultProperty = some name ∧ direction = d) ↔
        m.properties.get? d.defaultProperty = some name := by
    cases d <;> simp
  unfold allBindings
  rw [holds_foldl_iff (IsBound · name d) (isBound_addDefault m.properties), default,
    holds_foldl_iff (IsBound · name d) isBound_addConnector, connected, or_assoc]

theorem hasDefault_cons {b : Binding} {bindings : List Binding} :
    HasDefault (b :: bindings) d ↔ b.isDefaultFor d = true ∨ HasDefault bindings d := by
  simp only [HasDefault, List.mem_cons, exists_eq_or_imp]

theorem hasDefault_addConnector (bindings : List Binding) (property : String) :
    HasDefault (addConnector bindings property) d ↔ HasDefault bindings d := by
  unfold addConnector
  split
  · rfl
  · split
    · rfl
    · simp [HasDefault, or_and_right, exists_or]

theorem hasDefault_claimDefault (channel : String) (direction : Direction)
    (bindings : List Binding) :
    HasDefault (claimDefault channel direction bindings) d ↔
      HasDefault bindings d ∨ direction = d := by
  induction bindings with
  | nil => simp [claimDefault, HasDefault, Binding.isDefaultFor_asDefault_iff]
  | cons b rest ih =>
      unfold claimDefault
      split
      case isTrue same =>
          obtain ⟨-, rfl⟩ : b.name = channel ∧ b.direction = direction := by
            simpa [Binding.isFor] using same
          rw [hasDefault_cons, hasDefault_cons, Binding.isDefaultFor_asDefault_iff]
          tauto
      case isFalse => rw [hasDefault_cons, hasDefault_cons, ih, or_assoc]

theorem hasDefault_addDefault (properties : Dict String) (bindings : List Binding)
    (direction : Direction) :
    HasDefault (addDefault properties bindings direction) d ↔
      HasDefault bindings d ∨ (properties.contains direction.defaultProperty = true ∧
        direction = d) := by
  unfold addDefault
  split
  case h_1 none => simp [Dict.contains, none]
  case h_2 channel some => simp [hasDefault_claimDefault, Dict.contains, some]

/-- Connectors claim no default; a default is declared, or set by the property for it. -/
theorem hasDefault_allBindings_iff (m : Messaging) :
    HasDefault m.allBindings d ↔
      HasDefault m.bindings d ∨ m.properties.contains d.defaultProperty = true := by
  have default : (∃ direction ∈ [Direction.input, Direction.output],
      m.properties.contains direction.defaultProperty = true ∧ direction = d) ↔
        m.properties.contains d.defaultProperty = true := by
    cases d <;> simp
  have connected : ∀ bindings property, HasDefault (addConnector bindings property) d ↔
      HasDefault bindings d ∨ False := by
    simp [hasDefault_addConnector]
  unfold allBindings
  rw [holds_foldl_iff (HasDefault · d) (hasDefault_addDefault m.properties), default,
    holds_foldl_iff (HasDefault · d) connected]
  simp

end Bound

section Agreement

variable {m : Messaging} {t : Trigger} {d : Direction}

theorem settle_unconfigured_iff {bindings : List Binding} (awaits : t.Awaits d) :
    (settle bindings t).1 = t.settle t.declaredChannel .unconfigured ↔
      ¬ IsBound bindings t.declaredChannel d ∧ ¬ HasDefault bindings d := by
  by_cases bound : IsBound bindings t.declaredChannel d
  · simp [settle_bound awaits bound, bound, Trigger.settle]
  · cases found : defaultFor bindings d with
    | some b =>
        have first := defaultFor_eq_some_iff.1 found
        have claimed : HasDefault bindings d := by
          obtain ⟨before, after, split, claims, -⟩ := first
          exact ⟨b, by simp [split], claims⟩
        simp [settle_default awaits bound first, claimed, Trigger.settle]
    | none =>
        have unclaimed := defaultFor_eq_none_iff.1 found
        simpa [settle_unconfigured awaits bound unclaimed, bound, HasDefault] using unclaimed

theorem settleByProperty_of_awaits (awaits : t.Awaits d) :
    settleByProperty m.properties t =
      if m.properties.contains (d.connectorProperty t.name) = true then
        (t.settle t.name .explicit, none)
      else (t.settle t.declaredChannel .unconfigured,
        some (.missingConnectorProperty t.processId t.name (d.connectorProperty t.name))) := by
  obtain ⟨moves, pending⟩ := awaits
  simp [settleByProperty, Trigger.connectorProperty?, moves, Trigger.isResolved, pending]

/-- A trigger that goes by its name ends up alike in both ways, if its channel has a connector, or
    if nothing but a connector could have settled it. -/
theorem settle_eq_settleByProperty_iff (awaits : t.Awaits d) (named : t.name ≠ "")
    (undeclared : t.channel = none) :
    (settle m.allBindings t).1 = (settleByProperty m.properties t).1 ↔
      m.properties.contains (d.connectorProperty t.name) = true ∨
        (¬ IsBound m.bindings t.name d ∧ ¬ HasDefault m.bindings d ∧
          m.properties.get? d.defaultProperty = none) := by
  have goesByName : t.declaredChannel = t.name := by simp [Trigger.declaredChannel, undeclared]
  rw [settleByProperty_of_awaits awaits]
  by_cases connected : m.properties.contains (d.connectorProperty t.name) = true
  · have bound : IsBound m.allBindings t.declaredChannel d := by
      rw [goesByName, isBound_allBindings_iff]
      exact .inr (.inl ⟨named, connected⟩)
    simp [settle_bound awaits bound, connected, goesByName]
  · -- The property leaves the trigger without a channel, so the bindings must not have one for it
    -- either.
    have isSet : m.properties.contains d.defaultProperty =
        (m.properties.get? d.defaultProperty).isSome := rfl
    rw [if_neg connected, settle_unconfigured_iff awaits, goesByName, isBound_allBindings_iff,
      hasDefault_allBindings_iff, isSet]
    cases m.properties.get? d.defaultProperty <;> simp [connected]

/-- Both ways to settle a trigger that goes by its name come to the same, if its channel has a
    connector. Without declared bindings and a default for its direction they always do. -/
theorem normalize_agrees_on_connectors (m : Messaging) {triggers : List Trigger} {position : Nat}
    (given : triggers[position]? = some t) (awaits : t.Awaits d) (named : t.name ≠ "")
    (undeclared : t.channel = none) :
    ∃ byProperty byBinding : Trigger,
      (normalizeByProperties m.properties triggers).triggers[position]? = some byProperty ∧
      (normalize m.allBindings triggers).triggers[position]? = some byBinding ∧
      (byProperty.resolution = .explicit ↔
        m.properties.contains (d.connectorProperty t.name) = true) ∧
      (byProperty.resolution = .explicit → byBinding = byProperty) ∧
      (m.bindings = [] → m.properties.get? d.defaultProperty = none → byBinding = byProperty) := by
  have alike := settle_eq_settleByProperty_iff (m := m) awaits named undeclared
  have explicit : (settleByProperty m.properties t).1.resolution = .explicit ↔
      m.properties.contains (d.connectorProperty t.name) = true := by
    rw [settleByProperty_of_awaits awaits]
    split <;> simp_all [Trigger.settle]
  refine ⟨(settleByProperty m.properties t).1, (settle m.allBindings t).1, ?_, ?_, explicit, ?_, ?_⟩
  · simp [normalizeByProperties, given]
  · simp [Channel.normalize, given]
  · intro settled
    exact alike.2 (.inl (explicit.1 settled))
  · intro noBindings noDefault
    refine alike.2 (.inr ⟨?_, ?_, noDefault⟩) <;> simp [noBindings, IsBound, HasDefault]

/-- A connector for a channel whose name looks like a connector, and a default for outputs. -/
def dotted : Messaging where
  properties := Dict.ofList
    [("messaging.incoming.a.connector.connector", "kafka"), ("messaging.outgoing.default", "a")]

/-- The whole name is found in the property, whichever way the trigger is settled. -/
theorem normalize_agrees_on_connectors_dotted :
    let other : Trigger := { processId := "p", ownerId := "other", kind := .consume, name := "a" }
    let t : Trigger := { processId := "p", ownerId := "n", kind := .consume, name := "a.connector" }
    t.Awaits .input ∧ dotted.bindings = [] ∧
      dotted.properties.get? Direction.input.defaultProperty = none ∧
      ∃ byProperty byBinding : Trigger,
        (normalizeByProperties dotted.properties [other, t]).triggers[1]? = some byProperty ∧
        (normalize dotted.allBindings [other, t]).triggers[1]? = some byBinding ∧
        byProperty.resolution = .explicit ∧ byBinding = byProperty := by
  intro other t
  have awaits : t.Awaits .input := ⟨rfl, rfl⟩
  have given : [other, t][1]? = some t := rfl
  obtain ⟨byProperty, byBinding, found, found', explicit, alike, -⟩ :=
    normalize_agrees_on_connectors dotted given awaits (by decide) rfl
  have settled : byProperty.resolution = .explicit := explicit.2 (by decide)
  exact ⟨awaits, rfl, by decide, byProperty, byBinding, found, found', settled, alike settled⟩

end Agreement

end Messaging

end Flowsmith

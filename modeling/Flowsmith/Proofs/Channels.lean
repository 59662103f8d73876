import Flowsmith.Channel.Resolve
import Mathlib.Data.List.Forall2

/-!
What channel resolution does, said of its results alone: which triggers it changes and how, which
findings it reports, and that what it has settled stays settled, whatever resolves it again.
-/

namespace Flowsmith

/-- A trigger that moves messages in a direction and whose channel is not settled. -/
def Trigger.Awaits (d : Direction) (t : Trigger) : Prop :=
  Direction.ofKind? t.kind = some d ∧ t.resolution = .pending

/-- A trigger that has no channel to settle, or has one that is settled. -/
def Trigger.IsSettled (t : Trigger) : Prop :=
  t.kind.isMessage = false ∨ t.resolution ≠ .pending

theorem Trigger.settled_or_awaits (t : Trigger) : t.IsSettled ∨ ∃ d, t.Awaits d := by
  by_cases pending : t.resolution = .pending
  · cases kind : t.kind with
    | consume => exact .inr ⟨.input, by simp [Awaits, kind, pending, Direction.ofKind?]⟩
    | produce => exact .inr ⟨.output, by simp [Awaits, kind, pending, Direction.ofKind?]⟩
    | signal => exact .inl (.inl (by simp [kind, TriggerKind.isMessage]))
    | timer => exact .inl (.inl (by simp [kind, TriggerKind.isMessage]))
  · exact .inl (.inr pending)

namespace Channel

/-- Some binding is the channel of that name and direction. -/
def IsBound (bindings : List Binding) (name : String) (d : Direction) : Prop :=
  ∃ b ∈ bindings, b.name = name ∧ b.direction = d

/-- The first of the bindings that claim the default of a direction. -/
def IsFirstDefault (bindings : List Binding) (d : Direction) (b : Binding) : Prop :=
  ∃ before after, bindings = before ++ b :: after ∧ b.isDefaultFor d = true ∧
    ∀ c ∈ before, c.isDefaultFor d = false

/-- What a trigger becomes. -/
structure Settles (bindings : List Binding) (t t' : Trigger) : Prop where
  /-- Nothing else than the channel and the resolution changes. -/
  frame : ∃ channel resolution, t' = { t with channel, resolution }
  kept : t.IsSettled → t' = t
  explicit : ∀ d, t.Awaits d →
    (t' = { t with channel := some t.declaredChannel, resolution := .explicit } ↔
      IsBound bindings t.declaredChannel d)
  defaulted : ∀ d, t.Awaits d → ¬ IsBound bindings t.declaredChannel d →
    ∀ b, IsFirstDefault bindings d b →
      t' = { t with channel := some b.name, resolution := .defaulted }
  unconfigured : ∀ d, t.Awaits d → ¬ IsBound bindings t.declaredChannel d →
    (∀ b ∈ bindings, b.isDefaultFor d = false) →
      t' = { t with channel := some t.declaredChannel, resolution := .unconfigured }

/-- What is found about the default of a direction: something only where two bindings claim it. -/
inductive AboutDefault (bindings : List Binding) (d : Direction) : List ChannelWarning → Prop
  | unambiguous (few : (bindings.filter (·.isDefaultFor d)).length ≤ 1) : AboutDefault bindings d []
  | ambiguous {chosen : Binding} {ignored : List Binding}
      (claimants : bindings.filter (·.isDefaultFor d) = chosen :: ignored)
      (several : ignored ≠ []) :
      AboutDefault bindings d [.ambiguousDefault d chosen.name (ignored.map Binding.name)]

/-- The finding about a trigger and what it became: there is one if it is newly without a
    channel. -/
def newlyUnconfigured? (change : Trigger × Trigger) : Option ChannelWarning :=
  if change.1.resolution = .pending ∧ change.2.resolution = .unconfigured then
    (Direction.ofKind? change.1.kind).map
      (.noChannelConfigured change.1.processId change.1.name change.1.declaredChannel)
  else none

/-- What the resolution of triggers against bindings comes to. -/
structure Meets (bindings : List Binding) (triggers : List Trigger) (r : Resolved) : Prop where
  /-- Each trigger has its result at its own position. -/
  results : List.Forall₂ (Settles bindings) triggers r.triggers
  /-- First come the findings about inputs and outputs, then those about triggers, in their
      order. -/
  findings : ∃ input output, AboutDefault bindings .input input ∧
    AboutDefault bindings .output output ∧
    r.warnings = input ++ output ++ (triggers.zip r.triggers).filterMap newlyUnconfigured?
  settled : ∀ t ∈ r.triggers, t.IsSettled
  /-- Other bindings change nothing any more, and find nothing but what is wrong with themselves. -/
  again : ∀ others, resolve others r.triggers = ⟨r.triggers, ambiguities others⟩
  /-- Neither do properties. -/
  byProperties : ∀ properties, normalizeByProperties properties r.triggers = ⟨r.triggers, []⟩ ∧
    missingConnectors properties r.triggers = []

section Settling

variable {bindings : List Binding} {t : Trigger} {d : Direction}

theorem any_isFor_iff {name : String} :
    bindings.any (Binding.isFor name d) = true ↔ IsBound bindings name d := by
  simp [IsBound, Binding.isFor]

theorem defaultFor_eq_some_iff {b : Binding} :
    defaultFor bindings d = some b ↔ IsFirstDefault bindings d b := by
  unfold defaultFor IsFirstDefault
  rw [List.find?_eq_some_iff_append]
  constructor
  · rintro ⟨claims, before, after, split, others⟩
    exact ⟨before, after, split, claims, fun c member => by simpa using others c member⟩
  · rintro ⟨before, after, split, claims, others⟩
    exact ⟨claims, before, after, split, fun c member => by simpa using others c member⟩

theorem defaultFor_eq_none_iff :
    defaultFor bindings d = none ↔ ∀ b ∈ bindings, b.isDefaultFor d = false := by
  simp [defaultFor]

theorem settle_of_isSettled (done : t.IsSettled) : settle bindings t = (t, none) := by
  unfold settle
  rcases done with other | resolved
  · cases kind : t.kind <;> simp [kind, TriggerKind.isMessage] at other <;> simp [Direction.ofKind?]
  · cases Direction.ofKind? t.kind <;> simp [Trigger.isResolved, resolved]

theorem settleByProperty_of_isSettled (properties : Dict String) (done : t.IsSettled) :
    settleByProperty properties t = (t, none) := by
  unfold settleByProperty Trigger.connectorProperty?
  rcases done with other | resolved
  · cases kind : t.kind <;> simp [kind, TriggerKind.isMessage] at other <;> simp [Direction.ofKind?]
  · cases Direction.ofKind? t.kind <;> simp [Trigger.isResolved, resolved]

theorem settle_of_awaits (awaits : t.Awaits d) :
    settle bindings t = settleMessage bindings d t := by
  obtain ⟨moves, pending⟩ := awaits
  simp [settle, moves, Trigger.isResolved, pending]

theorem settle_bound (awaits : t.Awaits d) (bound : IsBound bindings t.declaredChannel d) :
    settle bindings t = (t.settle t.declaredChannel .explicit, none) := by
  have found := any_isFor_iff.2 bound
  simp [settle_of_awaits awaits, settleMessage, found]

theorem settle_default (awaits : t.Awaits d) (unbound : ¬ IsBound bindings t.declaredChannel d)
    {b : Binding} (first : IsFirstDefault bindings d b) :
    settle bindings t = (t.settle b.name .defaulted, none) := by
  have notFound := mt any_isFor_iff.1 unbound
  have chosen := defaultFor_eq_some_iff.2 first
  rw [settle_of_awaits awaits, settleMessage]
  simp [notFound, chosen]

theorem settle_unconfigured (awaits : t.Awaits d) (unbound : ¬ IsBound bindings t.declaredChannel d)
    (noDefault : ∀ b ∈ bindings, b.isDefaultFor d = false) :
    settle bindings t = (t.settle t.declaredChannel .unconfigured,
      some (.noChannelConfigured t.processId t.name t.declaredChannel d)) := by
  have notFound := mt any_isFor_iff.1 unbound
  have notChosen := defaultFor_eq_none_iff.2 noDefault
  rw [settle_of_awaits awaits, settleMessage]
  simp [notFound, notChosen]

/-- All that can become of a trigger, with the finding about it. -/
theorem settle_cases (bindings : List Binding) (t : Trigger) :
    (t.IsSettled ∧ settle bindings t = (t, none)) ∨
    ∃ d, t.Awaits d ∧
      ((IsBound bindings t.declaredChannel d ∧
          settle bindings t = (t.settle t.declaredChannel .explicit, none)) ∨
        (¬ IsBound bindings t.declaredChannel d ∧ ∃ b, IsFirstDefault bindings d b ∧
          settle bindings t = (t.settle b.name .defaulted, none)) ∨
        (¬ IsBound bindings t.declaredChannel d ∧ (∀ b ∈ bindings, b.isDefaultFor d = false) ∧
          settle bindings t = (t.settle t.declaredChannel .unconfigured,
            some (.noChannelConfigured t.processId t.name t.declaredChannel d)))) := by
  rcases t.settled_or_awaits with done | ⟨d, awaits⟩
  · exact .inl ⟨done, settle_of_isSettled done⟩
  · refine .inr ⟨d, awaits, ?_⟩
    by_cases bound : IsBound bindings t.declaredChannel d
    · exact .inl ⟨bound, settle_bound awaits bound⟩
    · cases default : defaultFor bindings d with
      | some b =>
          have first := defaultFor_eq_some_iff.1 default
          exact .inr (.inl ⟨bound, b, first, settle_default awaits bound first⟩)
      | none =>
          have noDefault := defaultFor_eq_none_iff.1 default
          exact .inr (.inr ⟨bound, noDefault, settle_unconfigured awaits bound noDefault⟩)

theorem isSettled_settle (bindings : List Binding) (t : Trigger) :
    (settle bindings t).1.IsSettled := by
  rcases settle_cases bindings t with
    ⟨done, result⟩ | ⟨d, -, ⟨-, result⟩ | ⟨-, b, -, result⟩ | ⟨-, -, result⟩⟩ <;> rw [result]
  · exact done
  all_goals exact .inr (by simp [Trigger.settle])

theorem settles_settle (bindings : List Binding) (t : Trigger) :
    Settles bindings t (settle bindings t).1 := by
  have notBoth : ∀ {d}, t.Awaits d → ¬ t.IsSettled := by
    rintro d ⟨moves, pending⟩ (other | resolved)
    · cases kind : t.kind <;> simp [kind, TriggerKind.isMessage, Direction.ofKind?] at other moves
    · exact resolved pending
  constructor
  · rcases settle_cases bindings t with
      ⟨-, result⟩ | ⟨d, -, ⟨-, result⟩ | ⟨-, b, -, result⟩ | ⟨-, -, result⟩⟩ <;> rw [result]
    · exact ⟨t.channel, t.resolution, rfl⟩
    all_goals exact ⟨_, _, rfl⟩
  · intro done
    rw [settle_of_isSettled done]
  · intro d awaits
    constructor
    · intro becomes
      -- Of the four ways out, only that of a bound channel ends with an explicit one.
      apply Classical.byContradiction
      intro unbound
      have ends := congrArg Trigger.resolution becomes
      cases default : defaultFor bindings d with
      | some b =>
          rw [settle_default awaits unbound (defaultFor_eq_some_iff.1 default)] at ends
          simp [Trigger.settle] at ends
      | none =>
          rw [settle_unconfigured awaits unbound (defaultFor_eq_none_iff.1 default)] at ends
          simp [Trigger.settle] at ends
    · intro bound
      rw [settle_bound awaits bound]
      rfl
  · intro d awaits unbound b first
    rw [settle_default awaits unbound first]
    rfl
  · intro d awaits unbound noDefault
    rw [settle_unconfigured awaits unbound noDefault]
    rfl

/-- The finding about a trigger can be told from what the trigger became. -/
theorem settle_finding (bindings : List Binding) (t : Trigger) :
    newlyUnconfigured? (t, (settle bindings t).1) = (settle bindings t).2 := by
  rcases settle_cases bindings t with
    ⟨done, result⟩ | ⟨d, awaits, ⟨-, result⟩ | ⟨-, b, -, result⟩ | ⟨-, -, result⟩⟩ <;> rw [result]
  · have unchanged : ¬ (t.resolution = .pending ∧ t.resolution = .unconfigured) := by
      rintro ⟨pending, unconfigured⟩
      rw [pending] at unconfigured
      exact absurd unconfigured (by simp)
    simp [newlyUnconfigured?, unchanged]
  · simp [newlyUnconfigured?, Trigger.settle]
  · simp [newlyUnconfigured?, Trigger.settle]
  · simp [newlyUnconfigured?, Trigger.settle, awaits.1, awaits.2]

end Settling

theorem aboutDefault_ambiguity? (bindings : List Binding) (d : Direction) :
    AboutDefault bindings d (ambiguity? bindings d).toList := by
  unfold ambiguity?
  cases claimants : bindings.filter (·.isDefaultFor d) with
  | nil => exact .unambiguous (by simp [claimants])
  | cons chosen ignored =>
      cases ignored with
      | nil => exact .unambiguous (by simp [claimants])
      | cons other rest => exact .ambiguous claimants (by simp)

theorem ambiguities_eq (bindings : List Binding) :
    ambiguities bindings =
      (ambiguity? bindings .input).toList ++ (ambiguity? bindings .output).toList := by
  unfold ambiguities
  cases input : ambiguity? bindings .input <;> cases output : ambiguity? bindings .output <;>
    simp [input, output]

section Lists

variable {bindings : List Binding} {triggers : List Trigger}

theorem forall₂_settles (bindings : List Binding) (triggers : List Trigger) :
    List.Forall₂ (Settles bindings) triggers (normalize bindings triggers).triggers := by
  simp only [normalize, List.map_map]
  induction triggers with
  | nil => exact .nil
  | cons t rest ih => exact .cons (settles_settle bindings t) ih

theorem warnings_normalize (bindings : List Binding) (triggers : List Trigger) :
    (normalize bindings triggers).warnings =
      (triggers.zip (normalize bindings triggers).triggers).filterMap newlyUnconfigured? := by
  simp only [normalize]
  induction triggers with
  | nil => rfl
  | cons t rest ih =>
      rw [List.map_cons, List.map_cons, List.zip_cons_cons, List.filterMap_cons,
        List.filterMap_cons, settle_finding, ih]

theorem isSettled_of_mem_normalize {t : Trigger}
    (member : t ∈ (normalize bindings triggers).triggers) :
    t.IsSettled := by
  simp only [normalize, List.map_map, List.mem_map] at member
  obtain ⟨given, -, rfl⟩ := member
  exact isSettled_settle bindings given

variable (settled : ∀ t ∈ triggers, t.IsSettled)

include settled

theorem normalize_of_isSettled : normalize bindings triggers = ⟨triggers, []⟩ := by
  have each : triggers.map (settle bindings) = triggers.map fun t => (t, none) :=
    List.map_congr_left fun t member => settle_of_isSettled (settled t member)
  simp only [normalize, each, List.map_map, List.filterMap_map, Function.comp_def, List.map_id',
    List.filterMap_none]

theorem resolve_of_isSettled : resolve bindings triggers = ⟨triggers, ambiguities bindings⟩ := by
  simp [resolve, normalize_of_isSettled settled]

theorem settleByProperty_map_of_isSettled (properties : Dict String) :
    triggers.map (settleByProperty properties) = triggers.map fun t => (t, none) :=
  List.map_congr_left fun t member => settleByProperty_of_isSettled properties (settled t member)

theorem normalizeByProperties_of_isSettled (properties : Dict String) :
    normalizeByProperties properties triggers = ⟨triggers, []⟩ := by
  simp only [normalizeByProperties, settleByProperty_map_of_isSettled settled, List.map_map,
    List.filterMap_map, Function.comp_def, List.map_id', List.filterMap_none]

theorem missingConnectors_of_isSettled (properties : Dict String) :
    missingConnectors properties triggers = [] := by
  unfold missingConnectors
  rw [settleByProperty_map_of_isSettled settled]
  simp

end Lists

/-- Resolution settles each trigger as its bindings say, reports what it found, and leaves nothing
    for another resolution to settle. -/
theorem resolve_meets (bindings : List Binding) (triggers : List Trigger) :
    Meets bindings triggers (resolve bindings triggers) := by
  have settled : ∀ t ∈ (resolve bindings triggers).triggers, t.IsSettled :=
    fun t member => isSettled_of_mem_normalize member
  constructor
  · exact forall₂_settles bindings triggers
  · refine ⟨_, _, aboutDefault_ambiguity? bindings .input,
      aboutDefault_ambiguity? bindings .output, ?_⟩
    rw [← ambiguities_eq]
    change ambiguities bindings ++ (normalize bindings triggers).warnings = _
    rw [warnings_normalize]
    rfl
  · exact settled
  · intro others
    exact resolve_of_isSettled settled
  · intro properties
    exact ⟨normalizeByProperties_of_isSettled settled properties,
      missingConnectors_of_isSettled settled properties⟩

end Channel

end Flowsmith

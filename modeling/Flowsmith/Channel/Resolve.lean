import Flowsmith.Channel.Binding

/-!
Channel resolution. Each message trigger is settled once: on a configured channel, on the default of
its direction, or on the channel that it declares, with a warning. Triggers of workflows are settled
by their connector properties instead. Signals and timers stay as they are.
-/

namespace Flowsmith

/-- A finding about channels that stops nothing. -/
inductive ChannelWarning where
  | noChannelConfigured (processId trigger channel : String) (direction : Direction)
  | ambiguousDefault (direction : Direction) (chosen : String) (ignored : List String)
  | missingConnectorProperty (processId trigger property : String)
deriving DecidableEq, Repr

/-- The wording of a warning. -/
def ChannelWarning.message : ChannelWarning → String
  | .noChannelConfigured processId trigger channel direction =>
      s!"[{processId}] no channel configured for trigger '{trigger}'; " ++
        s!"keeping '{channel}' (no default {Keyword.text direction} binding)"
  | .ambiguousDefault direction chosen ignored =>
      s!"several bindings claim default {Keyword.text direction}; using '{chosen}', ignoring " ++
        String.intercalate ", " ignored
  | .missingConnectorProperty processId trigger property =>
      s!"[{processId}] trigger '{trigger}' has no connector property '{property}'"

/-- Triggers after resolution, in their order, and the findings. -/
structure Resolved where
  triggers : List Trigger := []
  warnings : List ChannelWarning := []
deriving DecidableEq, Repr

namespace Channel

/-- The default binding of a direction: the first one that claims it. -/
def defaultFor (bindings : List Binding) (direction : Direction) : Option Binding :=
  bindings.find? (·.isDefaultFor direction)

/-- The finding that several bindings claim the default of a direction. -/
def ambiguity? (bindings : List Binding) (direction : Direction) : Option ChannelWarning :=
  match bindings.filter (·.isDefaultFor direction) with
  | chosen :: other :: rest =>
      some (.ambiguousDefault direction chosen.name ((other :: rest).map Binding.name))
  | _ => none

/-- The findings about the bindings themselves. -/
def ambiguities (bindings : List Binding) : List ChannelWarning :=
  [Direction.input, Direction.output].filterMap (ambiguity? bindings)

/-- Settle one trigger of a direction that is still pending. -/
def settleMessage (bindings : List Binding) (direction : Direction) (t : Trigger) :
    Trigger × Option ChannelWarning :=
  let declared := t.declaredChannel
  if bindings.any (Binding.isFor declared direction) then (t.settle declared .explicit, none)
  else match defaultFor bindings direction with
    | some b => (t.settle b.name .defaulted, none)
    | none => (t.settle declared .unconfigured,
        some (.noChannelConfigured t.processId t.name declared direction))

/-- Settle one trigger, if it is to be settled. -/
def settle (bindings : List Binding) (t : Trigger) : Trigger × Option ChannelWarning :=
  match Direction.ofKind? t.kind with
  | none => (t, none)
  | some direction =>
      if t.isResolved then (t, none) else settleMessage bindings direction t

/-- Settle triggers; the findings about the bindings themselves are not repeated. -/
def normalize (bindings : List Binding) (triggers : List Trigger) : Resolved :=
  let settled := triggers.map (settle bindings)
  ⟨settled.map Prod.fst, settled.filterMap Prod.snd⟩

/-- Settle triggers, with all findings. -/
def resolve (bindings : List Binding) (triggers : List Trigger) : Resolved :=
  let r := normalize bindings triggers
  { r with warnings := ambiguities bindings ++ r.warnings }

/-- Settle one trigger by its connector property. -/
def settleByProperty (properties : Dict String) (t : Trigger) : Trigger × Option ChannelWarning :=
  match t.connectorProperty? with
  | none => (t, none)
  | some property =>
      if t.isResolved then (t, none)
      else if properties.contains property then (t.settle t.name .explicit, none)
      else (t.settle t.declaredChannel .unconfigured,
        some (.missingConnectorProperty t.processId t.name property))

/-- Settle triggers by their connector properties. -/
def normalizeByProperties (properties : Dict String) (triggers : List Trigger) : Resolved :=
  let settled := triggers.map (settleByProperty properties)
  ⟨settled.map Prod.fst, settled.filterMap Prod.snd⟩

/-- The triggers that lack a connector property, as they come out of resolution. -/
def missingConnectors (properties : Dict String) (triggers : List Trigger) : List Trigger :=
  (triggers.map (settleByProperty properties)).filterMap fun (t, w) => w.map fun _ => t

end Channel

end Flowsmith

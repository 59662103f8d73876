import Flowsmith.Definition.Basic

/-!
Triggers: the points of a process where messages come in or go out, signals are raised or awaited,
and timers fire.
-/

namespace Flowsmith

/-- What a trigger does. -/
inductive TriggerKind where
  | consume
  | produce
  | signal
  | timer
deriving DecidableEq, Repr

instance : Keyword TriggerKind where
  all := [.consume, .produce, .signal, .timer]
  text
    | .consume => "ConsumeMessage"
    | .produce => "ProduceMessage"
    | .signal => "Signal"
    | .timer => "Timer"

/-- Messages are bound to channels; signals and timers are not. -/
def TriggerKind.isMessage : TriggerKind → Bool
  | .consume | .produce => true
  | .signal | .timer => false

/-- How the channel of a trigger was settled. -/
inductive Resolution where
  /-- The channel is not settled yet. -/
  | pending
  /-- The channel is a configured one. -/
  | explicit
  /-- The channel was set to the default one of the direction. -/
  | defaulted
  /-- No channel is configured for the trigger; the declared one is kept. -/
  | unconfigured
deriving DecidableEq, Repr

instance : Keyword Resolution where
  all := [.pending, .explicit, .defaulted, .unconfigured]
  text
    | .pending => "pending"
    | .explicit => "explicit"
    | .defaulted => "defaulted"
    | .unconfigured => "unconfigured"

/-- A trigger of a process. -/
structure Trigger where
  processId : String
  /-- The node that it belongs to. -/
  ownerId : String
  kind : TriggerKind
  name : String
  dataType : Option DataType := none
  correlation : List String := []
  /-- The declared channel, and the settled one after resolution. -/
  channel : Option String := none
  resolution : Resolution := .pending
  /-- Whether it begins the process. -/
  start : Bool := false
  /-- Whether its node stands in no composite. -/
  topLevel : Bool := true
deriving DecidableEq, Repr

namespace Trigger

/-- The channel to look for: the declared one, or else the name of the trigger. -/
def declaredChannel (t : Trigger) : String :=
  t.channel.getD t.name

/-- Whether the channel has been settled. -/
def isResolved (t : Trigger) : Bool :=
  t.resolution != .pending

/-- The trigger with its channel settled. -/
def settle (t : Trigger) (channel : String) (resolution : Resolution) : Trigger :=
  { t with channel := some channel, resolution }

/-- The trigger of a message at a node. -/
def ofMessage (processId : String) (n : Node) (kind : TriggerKind) (m : Message) : Trigger :=
  { processId
    ownerId := n.id
    kind
    name := m.name
    dataType := m.dataType
    correlation := m.correlation
    channel := m.channel }

/-- The trigger of an event at a node; a timer goes by the id of its node. -/
def ofEvent (processId : String) (n : Node) (messageKind : TriggerKind) : Event → Trigger
  | .message m => ofMessage processId n messageKind m
  | .signal name dataType => { processId, ownerId := n.id, kind := .signal, name, dataType }
  | .timer _ => { processId, ownerId := n.id, kind := .timer, name := n.id }

/-- The trigger of a node; a timer cannot be thrown. -/
def ofNode? (processId : String) (n : Node) : Option Trigger :=
  let trigger? : Option Trigger :=
    match n.kind with
    | .start (some event) => some { ofEvent processId n .consume event with start := true }
    | .catchEvent event => some (ofEvent processId n .consume event)
    | .boundaryEvent _ event => some (ofEvent processId n .consume event)
    | .throwEvent (.timer _) => none
    | .throwEvent event => some (ofEvent processId n .produce event)
    | .finish (some m) => some (ofMessage processId n .produce m)
    | .sendTask m => some (ofMessage processId n .produce m)
    | .receiveTask m => some (ofMessage processId n .consume m)
    | _ => none
  trigger?.map fun t => { t with topLevel := n.isTopLevel }

end Trigger

/-- The triggers of a process, in the order of its nodes. -/
def Definition.triggers (d : Definition) : List Trigger :=
  d.nodes.filterMap (Trigger.ofNode? d.id)

end Flowsmith

import Flowsmith.Json.Decode
import Flowsmith.Definition.Read
import Flowsmith.Text.Affix
import Flowsmith.Trigger

/-!
Channel bindings: which channels are configured, and which one stands in for a channel that is not.
They are declared one by one, and follow from messaging properties.
-/

namespace Flowsmith

/-- Whether messages flow into processes or out of them. -/
inductive Direction where
  | input
  | output
deriving DecidableEq, Repr

instance : Keyword Direction where
  all := [.input, .output]
  text
    | .input => "input"
    | .output => "output"

namespace Direction

/-- The direction in which a trigger moves messages. -/
def ofKind? : TriggerKind → Option Direction
  | .consume => some .input
  | .produce => some .output
  | .signal | .timer => none

/-- What the messaging properties of a direction begin with. -/
def propertyRoot : Direction → String
  | .input => "messaging.incoming"
  | .output => "messaging.outgoing"

/-- The property whose value is the default channel of a direction. -/
def defaultProperty (d : Direction) : String :=
  d.propertyRoot ++ ".default"

/-- The property that configures a channel. -/
def connectorProperty (d : Direction) (channel : String) : String :=
  d.propertyRoot ++ "." ++ channel ++ ".connector"

/-- The channel that a property of this direction configures. -/
def connectorChannel? (d : Direction) (property : String) : Option String := do
  let rest ← Text.after? d.propertyRoot property
  let rest ← Text.after? "." rest
  let channel ← Text.before? ".connector" rest
  if channel = "" then none else some channel

end Direction

/-- The property that configures the channel of a trigger, for messages. -/
def Trigger.connectorProperty? (t : Trigger) : Option String :=
  (Direction.ofKind? t.kind).map fun d => d.connectorProperty t.name

/-- A configured channel. -/
structure Binding where
  name : String
  direction : Direction
  /-- Takes the consumed messages that no channel is configured for. -/
  defaultInput : Bool := false
  /-- Takes the produced messages that no channel is configured for. -/
  defaultOutput : Bool := false
deriving DecidableEq, Repr

namespace Binding

/-- The binding as the default of its direction. -/
def asDefault (b : Binding) : Binding :=
  match b.direction with
  | .input => { b with defaultInput := true }
  | .output => { b with defaultOutput := true }

/-- Whether a binding claims the default of a direction. -/
def isDefaultFor (b : Binding) : Direction → Bool
  | .input => b.defaultInput
  | .output => b.defaultOutput

/-- Whether a binding is the channel of that name and direction. -/
def isFor (name : String) (direction : Direction) (b : Binding) : Bool :=
  b.name == name && b.direction == direction

open Json in
def reader : Fields Binding :=
  Binding.mk <$> Fields.required "name" decodeString
    <*> Fields.required "direction" (decodeKeyword .direct)
    <*> Fields.defaulted "defaultInput" false decodeBool
    <*> Fields.defaulted "defaultOutput" false decodeBool

def ofJson : Json.Decoder Binding :=
  reader.decode .direct "struct ChannelBinding"

def toJson (b : Binding) : Json :=
  Json.ofFields [("name", .string b.name), ("direction", .string (Keyword.text b.direction)),
    ("defaultInput", .bool b.defaultInput), ("defaultOutput", .bool b.defaultOutput)]

end Binding

/-- Messaging configuration: declared bindings, and properties. -/
structure Messaging where
  bindings : List Binding := []
  properties : Dict String := .empty
deriving DecidableEq

namespace Messaging

/-- No bindings, and no properties. -/
def empty : Messaging := {}

open Json in
def reader : Fields Messaging :=
  Messaging.mk <$> Fields.defaulted "bindings" [] (decodeList Binding.ofJson)
    <*> Fields.defaulted "properties" Dict.empty (decodeDict decodeString)

def ofJson : Json.Decoder Messaging :=
  reader.decode .direct "struct MessagingConfig"

def toJson (m : Messaging) : Json :=
  Json.ofFields [("bindings", .array (m.bindings.map Binding.toJson)),
    ("properties", .object (m.properties.entries.map fun e => (e.1, .string e.2)))]

/-- The channel that a property configures, and its direction. -/
def connector? (property : String) : Option (String × Direction) :=
  [Direction.input, Direction.output].findSome? fun d =>
    (d.connectorChannel? property).map fun channel => (channel, d)

/-- Add the binding of a property, unless the channel is bound in that direction already. -/
def addConnector (bindings : List Binding) (property : String) : List Binding :=
  match connector? property with
  | none => bindings
  | some (name, direction) =>
      if bindings.any (Binding.isFor name direction) then bindings
      else bindings ++ [{ name, direction }]

/-- Make a channel the default of its direction, adding it when it is not bound. -/
def claimDefault (name : String) (direction : Direction) : List Binding → List Binding
  | [] => [Binding.asDefault { name, direction }]
  | b :: rest =>
      if b.isFor name direction then b.asDefault :: rest else b :: claimDefault name direction rest

/-- Follow the default property of a direction, when there is one. -/
def addDefault (properties : Dict String) (bindings : List Binding) (direction : Direction) :
    List Binding :=
  match properties.get? direction.defaultProperty with
  | none => bindings
  | some name => claimDefault name direction bindings

/-- All bindings: the declared ones, those of properties, and the defaults that properties name. -/
def allBindings (m : Messaging) : List Binding :=
  [Direction.input, Direction.output].foldl (addDefault m.properties)
    (m.properties.keys.foldl addConnector m.bindings)

end Messaging

end Flowsmith

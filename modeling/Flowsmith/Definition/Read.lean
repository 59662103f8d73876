import Flowsmith.Json.Decode
import Flowsmith.Definition.Basic

/-!
Process definitions from JSON values. The own fields of a node are read first, then its kind, then
the fields of that kind; these are held back until the kind is known.
-/

namespace Flowsmith

open Json

/-- A word of a type. -/
def decodeKeyword {α : Type} [Keyword α] (handling : Handling) : Decoder α :=
  decodeWord handling (Keyword.names α) Keyword.parse?

/-- The fields of a message. -/
def Message.reader : Fields Message :=
  Message.mk <$> Fields.required "name" decodeString
    <*> Fields.optional "dataType" (decodeKeyword .held)
    <*> Fields.optional "channel" decodeString
    <*> Fields.defaulted "correlation" [] (decodeList decodeString)

def Message.ofJson : Decoder Message :=
  Message.reader.decode .held "struct MessageRef"

/-- The fields of a signal. -/
def Event.signalReader : Fields Event :=
  Event.signal <$> Fields.required "name" decodeString
    <*> Fields.defaulted "dataType" none (decodeOption (decodeKeyword .held))

/-- The fields of a timer. -/
def Event.timerReader : Fields Event :=
  Event.timer <$> Fields.required "expression" decodeString

/-- The names of the kinds of event, in the order of their indices. -/
def Event.typeNames : List String :=
  ["Message", "Signal", "Timer"]

/-- An event whose kind is known. -/
def Event.ofBody (type : String) : Decoder Event :=
  if type = "Message" then fun v => Event.message <$> Message.ofJson v
  else if type = "Signal" then
    Event.signalReader.decode .held "struct variant EventDefinition::Signal"
  else Event.timerReader.decode .held "struct variant EventDefinition::Timer"

/-- An event: an object with its kind under `type`, or a list that begins with its kind. -/
def Event.ofJson : Decoder Event
  | .object entries =>
      match entries.lookup "type" with
      | none => .error (.missingField "type")
      | some tag => do
          let type ← decodeTag Event.typeNames tag
          Event.ofBody type (.object (entries.filter (fun e => e.1 != "type")))
  | .array [] => .error (.missingField "type")
  | .array (tag :: items) => do
      let type ← decodeTag Event.typeNames tag
      Event.ofBody type (.array items)
  | v => unfit "internally tagged enum EventDefinition" v

/-- The fields of a kind of node. -/
def NodeKind.reader (type : String) : Fields NodeKind :=
  if type = "Start" then
    NodeKind.start <$> Fields.defaulted "trigger" none (decodeOption Event.ofJson)
  else if type = "End" then
    NodeKind.finish <$> Fields.defaulted "message" none (decodeOption Message.ofJson)
  else if type = "Action" then
    NodeKind.action <$> Fields.defaulted "script" none (decodeOption decodeString)
  else if type = "WorkItem" then
    NodeKind.workItem <$> Fields.required "handler" decodeString
      <*> Fields.defaulted "parameters" Dict.empty (decodeDict decodeString)
  else if type = "Gateway" then
    NodeKind.gateway <$> Fields.required "gatewayType" (decodeKeyword .held)
  else if type = "CatchEvent" then
    NodeKind.catchEvent <$> Fields.required "event" Event.ofJson
  else if type = "ThrowEvent" then
    NodeKind.throwEvent <$> Fields.required "event" Event.ofJson
  else if type = "BoundaryEvent" then
    NodeKind.boundaryEvent <$> Fields.required "attachedTo" decodeString
      <*> Fields.required "event" Event.ofJson
  else if type = "SendTask" then
    NodeKind.sendTask <$> Fields.required "message" Message.ofJson
  else if type = "ReceiveTask" then
    NodeKind.receiveTask <$> Fields.required "message" Message.ofJson
  else if type = "SubProcessCall" then
    NodeKind.subProcessCall <$> Fields.required "processId" decodeString
      <*> Fields.defaulted "waitForCompletion" true decodeBool
      <*> Fields.defaulted "independent" false decodeBool
  else pure NodeKind.composite

/-- The own fields of a node; the kind is to follow. -/
def Node.reader : Fields (NodeKind → Node) :=
  Node.mk <$> Fields.required "id" decodeString
    <*> Fields.optional "name" decodeString
    <*> Fields.optional "parent" decodeString

/-- A node, always an object. -/
def Node.ofJson : Decoder Node
  | .object entries => do
      let node ← Node.reader.ofObject entries
      match entries.lookup "nodeType" with
      | none => .error (.missingField "nodeType")
      | some tag => do
          let type ← decodeTag NodeKind.typeNames tag
          return node (← (NodeKind.reader type).ofObject entries)
  | v => unfit "struct Node" v

def Connection.reader : Fields Connection :=
  Connection.mk <$> Fields.required "from" decodeString <*> Fields.required "to" decodeString

def Connection.ofJson : Decoder Connection :=
  Connection.reader.decode .direct "struct Connection"

def Variable.reader : Fields Variable :=
  Variable.mk <$> Fields.required "name" decodeString
    <*> Fields.required "dataType" (decodeKeyword .direct)
    <*> Fields.defaulted "tags" [] (decodeList (decodeKeyword .direct))

def Variable.ofJson : Decoder Variable :=
  Variable.reader.decode .direct "struct VariableDeclaration"

/-- The fields of a process definition. -/
def Definition.reader : Fields Definition :=
  Definition.mk <$> Fields.required "id" decodeString
    <*> Fields.defaulted "packageName" "" decodeString
    <*> Fields.optional "name" decodeString
    <*> Fields.optional "version" decodeString
    <*> Fields.defaulted "visibility" .external (decodeKeyword .direct)
    <*> Fields.defaulted "kind" .graph (decodeKeyword .direct)
    <*> Fields.defaulted "nodes" [] (decodeList Node.ofJson)
    <*> Fields.defaulted "connections" [] (decodeList Connection.ofJson)
    <*> Fields.defaulted "variables" [] (decodeList Variable.ofJson)
    <*> Fields.defaulted "metadata" Dict.empty (decodeDict pure)
    <*> Fields.optional "resource" decodeString
    <*> Fields.defaulted "dynamic" false decodeBool

def Definition.ofJson : Decoder Definition :=
  Definition.reader.decode .direct "struct ProcessModel"

/-- Why a value holds no process definitions. -/
inductive ReadFault where
  /-- One process does not fit. -/
  | process (m : Mismatch)
  /-- The process at an index of a list does not fit. -/
  | listed (index : Nat) (m : Mismatch)
  /-- Neither an object nor a list. -/
  | scalar (type : String)
deriving DecidableEq, Repr

/-- The wording of a fault. -/
def ReadFault.message : ReadFault → String
  | .process m => "Failed to parse process: " ++ m.message
  | .listed index m => s!"Process #{index}: Failed to parse process: " ++ m.message
  | .scalar type => "Failed to parse processes: expected an object or an array, found " ++ type

/-- One process definition. -/
def Definition.read (v : Json) : Except ReadFault Definition :=
  match Definition.ofJson v with
  | .ok p => .ok p
  | .error m => .error (.process m)

/-- The definitions of a list whose first item has the given index. -/
def Definition.readListed (index : Nat) : List Json → Except ReadFault (List Definition)
  | [] => .ok []
  | v :: rest =>
      match Definition.ofJson v with
      | .ok p => (p :: ·) <$> readListed (index + 1) rest
      | .error m => .error (.listed index m)

/-- One process definition, given as an object, or a list of them. -/
def Definition.readAll : Json → Except ReadFault (List Definition)
  | .array items => readListed 0 items
  | .object entries => (fun p => [p]) <$> Definition.read (.object entries)
  | .null => .error (.scalar "null")
  | .bool _ => .error (.scalar "boolean")
  | .number _ => .error (.scalar "number")
  | .string _ => .error (.scalar "string")

end Flowsmith

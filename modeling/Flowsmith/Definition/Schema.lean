import Flowsmith.Definition.Basic
import Flowsmith.Index

/-!
The schema of process definitions, as a JSON value.
-/

namespace Flowsmith.Schema

/-- A schema: the keywords that it is made of. -/
abbrev Keywords := List (String × Json)

/-- A schema with a description. -/
def described (description : String) (schema : Keywords) : Keywords :=
  ("description", .string description) :: schema

/-- A schema with a default value. -/
def withDefault (value : Json) (schema : Keywords) : Keywords :=
  ("default", value) :: schema

/-- A schema with a title. -/
def titled (title : String) (schema : Keywords) : Keywords :=
  ("title", .string title) :: schema

/-- The values of a type. -/
def type (name : String) : Keywords :=
  [("type", .string name)]

/-- Texts. -/
def text : Keywords := type "string"

/-- Texts, and null. -/
def textOrNull : Keywords :=
  [("type", Json.strings ["string", "null"])]

/-- Truth values. -/
def flag : Keywords := type "boolean"

/-- Values of a definition. -/
def reference (name : String) : Keywords :=
  [("$ref", .string ("#/definitions/" ++ name))]

/-- Values of a definition, where more is said of them. -/
def constrained (name : String) : Keywords :=
  [("allOf", .array [Json.ofFields (reference name)])]

/-- Values of a definition, and null. -/
def referenceOrNull (name : String) : Keywords :=
  [("anyOf", .array [Json.ofFields (reference name), Json.ofFields (type "null")])]

/-- Lists. -/
def listOf (item : Keywords) : Keywords :=
  ("items", Json.ofFields item) :: type "array"

/-- Objects whose fields all have one schema. -/
def dictOf (item : Json) : Keywords :=
  ("additionalProperties", item) :: type "object"

/-- One of several schemas. -/
def oneOf (schemas : List Keywords) : Keywords :=
  [("oneOf", .array (schemas.map Json.ofFields))]

/-- A single word. -/
def word (name : String) : Keywords :=
  ("enum", Json.strings [name]) :: text

/-- The words of a type, each with its description. -/
def words {α : Type} [Keyword α] (describe : α → String) : Keywords :=
  oneOf ((Keyword.all : List α).map fun a => described (describe a) (word (Keyword.text a)))

/-- An object with the given fields; those that are required are listed in order. -/
def object (required : List String) (fields : List (String × Keywords)) : Keywords :=
  [("required", Json.strings required),
    ("properties", Json.ofFields (fields.map fun (name, schema) =>
      (name, Json.ofFields schema)))] ++
    type "object"

/-- Objects of one kind, which a field tells from others. -/
def variant (tag name description : String) (required : List String)
    (fields : List (String × Keywords)) : Keywords :=
  described description (object required ((tag, word name) :: fields))

def visibility : Keywords :=
  described "Visibility of a process to callers outside its package." (words fun
    | Visibility.external => "Callable from outside (REST endpoints are generated)"
    | Visibility.internal => "Only reachable as a sub-process or through messaging")

def processKind : Keywords :=
  described "Source notation of a process." (words fun
    | ProcessKind.graph => "Graph-notation (XML) process"
    | ProcessKind.workflow => "JSON/YAML workflow with implicit channel naming"
    | ProcessKind.placeholder => "Sentinel process with no model and no behavior")

def gatewayType : Keywords :=
  titled "GatewayType" (described "Gateway routing behavior." (words fun
    | GatewayType.exclusive => "Exactly one outgoing path"
    | GatewayType.parallel => "All outgoing paths"
    | GatewayType.inclusive => "Any matching outgoing paths"
    | GatewayType.eventBased => "First event to arrive wins"))

def dataType : Keywords :=
  titled "DataType" (described "Data types for variables and message payloads." (words fun
    | DataType.string => "String value"
    | DataType.integer => "Integer number"
    | DataType.number => "Floating point number"
    | DataType.boolean => "Boolean value"
    | DataType.date => "Date/time value (ISO-8601 text)"
    | DataType.array => "Array of values"
    | DataType.object => "JSON object"))

def variableTag : Keywords :=
  described "Variable tags." (words fun
    | VariableTag.input => "Only accepted when starting the process"
    | VariableTag.output => "Only returned when the process completes"
    | VariableTag.internal => "Never exposed outside the process"
    | VariableTag.required => "Must be present when the model is validated"
    | VariableTag.readonly => "Cannot be updated after start")

def connection : Keywords :=
  described "A sequence flow." (object ["from", "to"] [
    ("from", described "Source node ID" text),
    ("to", described "Target node ID" text)])

def variableDeclaration : Keywords :=
  described "A declared process variable." (object ["dataType", "name"] [
    ("name", described "Variable name" text),
    ("dataType", described "Declared type" (constrained "DataType")),
    ("tags", described "Tags controlling which models the variable appears in"
      (listOf (reference "VariableTag")))])

/-- The fields of a message. -/
def messageFields : List (String × Keywords) := [
  ("name", described "Logical message name" text),
  ("dataType", described "Payload type" (referenceOrNull "DataType")),
  ("channel", described "Channel the message is bound to, when declared" textOrNull),
  ("correlation", described "Payload keys correlating a message with a running instance"
    (listOf text))]

def message : Keywords :=
  described "Message reference attached to message events and tasks."
    (object ["name"] messageFields)

def event : Keywords :=
  described "What an event node waits for or raises." (oneOf [
    variant "type" "Message" "A message exchanged over a channel" ["name", "type"] messageFields,
    variant "type" "Signal" "A named in-engine signal" ["name", "type"] [
      ("name", text),
      ("dataType", referenceOrNull "DataType")],
    variant "type" "Timer" "A timer (cycle, duration or date expression)" ["expression", "type"] [
      ("expression", text)]])

/-- The kinds of node. -/
def nodeKinds : List Keywords := [
  variant "nodeType" "Start" "Process entry point; a trigger makes it an event start" ["nodeType"]
    [("trigger", referenceOrNull "EventDefinition")],
  variant "nodeType" "End" "Process exit point; a message makes it a message end event" ["nodeType"]
    [("message", referenceOrNull "MessageRef")],
  variant "nodeType" "Action" "Inline script" ["nodeType"]
    [("script", textOrNull)],
  variant "nodeType" "WorkItem" "Delegates to a named work item handler" ["handler", "nodeType"]
    [("handler", described "Handler name (`name` is taken by the node itself)" text),
      ("parameters", dictOf (Json.ofFields text))],
  variant "nodeType" "Gateway" "Diverging or converging gateway" ["gatewayType", "nodeType"]
    [("gatewayType", reference "GatewayType")],
  variant "nodeType" "CatchEvent" "Intermediate event waiting for a message, signal or timer"
    ["event", "nodeType"] [("event", reference "EventDefinition")],
  variant "nodeType" "ThrowEvent" "Intermediate event raising a message or signal"
    ["event", "nodeType"] [("event", reference "EventDefinition")],
  variant "nodeType" "BoundaryEvent" "Event attached to another node's boundary"
    ["attachedTo", "event", "nodeType"]
    [("attachedTo", text), ("event", reference "EventDefinition")],
  variant "nodeType" "SendTask" "Task sending a message" ["message", "nodeType"]
    [("message", reference "MessageRef")],
  variant "nodeType" "ReceiveTask" "Task waiting for a message" ["message", "nodeType"]
    [("message", reference "MessageRef")],
  variant "nodeType" "SubProcessCall" "Calls another process of the batch"
    ["nodeType", "processId"]
    [("processId", text),
      ("waitForCompletion", withDefault (.bool true) flag),
      ("independent", withDefault (.bool false) flag)],
  variant "nodeType" "Composite" "Embedded sub-process containing the nodes that name it as parent"
    ["nodeType"] []]

def node : Keywords :=
  described "A node of the process graph." (object ["id"] [
    ("id", described "Node identifier, unique within the process" text),
    ("name", described "Human-readable label" textOrNull),
    ("parent", described "Containing `Composite` node; `None` for top-level nodes" textOrNull)] ++
    oneOf nodeKinds)

/-- The definitions that others refer to. -/
def definitions : List (String × Keywords) := [
  ("Connection", connection),
  ("DataType", dataType),
  ("EventDefinition", event),
  ("GatewayType", gatewayType),
  ("MessageRef", message),
  ("Node", node),
  ("ProcessKind", processKind),
  ("VariableDeclaration", variableDeclaration),
  ("VariableTag", variableTag),
  ("Visibility", visibility)]

/-- The fields of a process definition. -/
def definitionFields : List (String × Keywords) := [
  ("id", described "Process identifier, unique within a compilation batch" text),
  ("packageName",
    described "Dotted package the generated artifacts live in (e.g. `com.acme.orders`)"
      (withDefault (.string "") text)),
  ("name", described "Human-readable name" textOrNull),
  ("version", described "Definition version" textOrNull),
  ("visibility", described "Whether the process is exposed to external callers"
    (withDefault (.string (Keyword.text Visibility.external)) (constrained "Visibility"))),
  ("kind", described "Source notation the process was parsed from"
    (withDefault (.string (Keyword.text ProcessKind.graph)) (constrained "ProcessKind"))),
  ("nodes", described "Ordered node graph" (withDefault (.array []) (listOf (reference "Node")))),
  ("connections", described "Sequence flows between nodes" (listOf (reference "Connection"))),
  ("variables", described "Process variable declarations"
    (listOf (reference "VariableDeclaration"))),
  ("metadata", described "Free-form metadata attached by the parser" (dictOf (.bool true))),
  ("resource", described "Originating resource (file path) the process was collected from"
    textOrNull),
  ("dynamic", described "Ad-hoc process whose nodes may be triggered out of order" flag)]

/-- The dialect that the schema is written in. -/
def dialect : String := "http:" ++ "//json-schema.org/draft-07/schema#"

/-- The names of the kinds of node, in alphabetical order. -/
def nodeTypes : List String :=
  NodeKind.typeNames.mergeSort (fun a b => decide (a ≤ b))

/-- The schema of a process definition. -/
def definition : Json :=
  Json.ofFields (titled "ProcessModel" (described "One process/workflow definition."
    (object ["id"] definitionFields ++ [
      ("$schema", .string dialect),
      ("definitions", Json.ofFields (definitions.map fun (name, schema) =>
        (name, Json.ofFields schema))),
      ("x-node-types", Json.strings nodeTypes),
      ("x-model-version", .string modelVersion)])))

end Flowsmith.Schema

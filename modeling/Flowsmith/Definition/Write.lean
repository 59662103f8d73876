import Flowsmith.Definition.Basic

/-!
Process definitions as JSON values. Fields that say nothing are left out: absent options, empty
lists and dictionaries, and a flag that is off.
-/

namespace Flowsmith

/-- A field that is written only when it is there. -/
def optionalField (name : String) (value : Option Json) : List (String × Json) :=
  value.toList.map (fun v => (name, v))

/-- A list field that is written only when it is not empty. -/
def listField (name : String) (items : List Json) : List (String × Json) :=
  if items.isEmpty then [] else [(name, .array items)]

/-- The word of a value. -/
def keywordJson {α : Type} [Keyword α] (a : α) : Json :=
  .string (Keyword.text a)

/-- The fields of a message. -/
def Message.fields (m : Message) : List (String × Json) :=
  [("name", .string m.name)] ++ optionalField "dataType" (m.dataType.map keywordJson) ++
    optionalField "channel" (m.channel.map .string) ++
    listField "correlation" (m.correlation.map .string)

def Message.toJson (m : Message) : Json :=
  Json.ofFields m.fields

/-- An event with its kind under `type`. -/
def Event.toJson : Event → Json
  | .message m => Json.ofFields (("type", .string "Message") :: m.fields)
  | .signal name dataType =>
      Json.ofFields ([("type", .string "Signal"), ("name", .string name)] ++
        optionalField "dataType" (dataType.map keywordJson))
  | .timer expression =>
      Json.ofFields [("type", .string "Timer"), ("expression", .string expression)]

/-- The fields that belong to the kind of a node. -/
def NodeKind.fields : NodeKind → List (String × Json)
  | .start trigger => optionalField "trigger" (trigger.map Event.toJson)
  | .finish message => optionalField "message" (message.map Message.toJson)
  | .action script => optionalField "script" (script.map .string)
  | .workItem handler parameters =>
      ("handler", .string handler) ::
        (if parameters.isEmpty then []
          else [("parameters", .object (parameters.entries.map (fun e => (e.1, .string e.2))))])
  | .gateway type => [("gatewayType", keywordJson type)]
  | .catchEvent event => [("event", event.toJson)]
  | .throwEvent event => [("event", event.toJson)]
  | .boundaryEvent attachedTo event => [("attachedTo", .string attachedTo), ("event", event.toJson)]
  | .sendTask message => [("message", message.toJson)]
  | .receiveTask message => [("message", message.toJson)]
  | .subProcessCall processId waitForCompletion independent =>
      [("processId", .string processId), ("waitForCompletion", .bool waitForCompletion),
        ("independent", .bool independent)]
  | .composite => []

/-- The fields of a node; those of its kind stand beside its own. -/
def Node.fields (n : Node) : List (String × Json) :=
  [("id", .string n.id)] ++ optionalField "name" (n.name.map .string) ++
    optionalField "parent" (n.parent.map .string) ++
    ("nodeType", .string n.kind.typeName) :: n.kind.fields

def Node.toJson (n : Node) : Json :=
  Json.ofFields n.fields

def Connection.toJson (c : Connection) : Json :=
  Json.ofFields [("from", .string c.source), ("to", .string c.target)]

def Variable.toJson (v : Variable) : Json :=
  Json.ofFields ([("name", .string v.name), ("dataType", keywordJson v.dataType)] ++
    listField "tags" (v.tags.map keywordJson))

/-- The fields of a process definition. -/
def Definition.fields (p : Definition) : List (String × Json) :=
  [("id", .string p.id), ("packageName", .string p.package)] ++
    optionalField "name" (p.name.map .string) ++ optionalField "version" (p.version.map .string) ++
    [("visibility", keywordJson p.visibility), ("kind", keywordJson p.kind),
      ("nodes", .array (p.nodes.map Node.toJson))] ++
    listField "connections" (p.connections.map Connection.toJson) ++
    listField "variables" (p.declarations.map Variable.toJson) ++
    (if p.metadata.isEmpty then [] else [("metadata", .object p.metadata.entries)]) ++
    optionalField "resource" (p.resource.map .string) ++
    (if p.dynamic then [("dynamic", .bool true)] else [])

def Definition.toJson (p : Definition) : Json :=
  Json.ofFields p.fields

end Flowsmith

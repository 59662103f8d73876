import Flowsmith.Json.Basic

/-!
Process definitions: a graph of nodes with connections between them, variables, and what is known of
the process as a whole. This is the one form that every reader of definitions produces and every
generator consumes.
-/

namespace Flowsmith

/-- A type whose values are a few words. -/
class Keyword (α : Type) where
  /-- All values, in the order in which they are offered. -/
  all : List α
  /-- The word of a value. -/
  text : α → String

namespace Keyword

/-- The words of a type. -/
def names (α : Type) [Keyword α] : List String :=
  (all : List α).map text

/-- The value of a word. -/
def parse? {α : Type} [Keyword α] (word : String) : Option α :=
  all.find? (fun a => text a == word)

end Keyword

/-- Whether a process may be called from outside. -/
inductive Visibility where
  | external
  | internal
deriving DecidableEq, Repr

instance : Keyword Visibility where
  all := [.external, .internal]
  text
    | .external => "public"
    | .internal => "private"

/-- The kind of a process. -/
inductive ProcessKind where
  | graph
  | workflow
  | placeholder
deriving DecidableEq, Repr

instance : Keyword ProcessKind where
  all := [.graph, .workflow, .placeholder]
  text
    | .graph => "graph"
    | .workflow => "workflow"
    | .placeholder => "placeholder"

/-- Kinds of process that have no data of their own. -/
def ProcessKind.isModelless (k : ProcessKind) : Bool :=
  k == .placeholder

/-- How a gateway chooses among its branches. -/
inductive GatewayType where
  | exclusive
  | parallel
  | inclusive
  | eventBased
deriving DecidableEq, Repr

instance : Keyword GatewayType where
  all := [.exclusive, .parallel, .inclusive, .eventBased]
  text
    | .exclusive => "exclusive"
    | .parallel => "parallel"
    | .inclusive => "inclusive"
    | .eventBased => "eventbased"

/-- The types of variables and payloads. -/
inductive DataType where
  | string
  | integer
  | number
  | boolean
  | date
  | array
  | object
deriving DecidableEq, Repr

instance : Keyword DataType where
  all := [.string, .integer, .number, .boolean, .date, .array, .object]
  text
    | .string => "string"
    | .integer => "integer"
    | .number => "number"
    | .boolean => "boolean"
    | .date => "date"
    | .array => "array"
    | .object => "object"

/-- The type that holds such data in generated sources. -/
def DataType.sourceType : DataType → String
  | .string | .date => "String"
  | .integer => "i64"
  | .number => "f64"
  | .boolean => "bool"
  | .array => "Vec<serde_json::Value>"
  | .object => "serde_json::Value"

/-- Marks on a variable. -/
inductive VariableTag where
  | input
  | output
  | internal
  | required
  | readonly
deriving DecidableEq, Repr

instance : Keyword VariableTag where
  all := [.input, .output, .internal, .required, .readonly]
  text
    | .input => "input"
    | .output => "output"
    | .internal => "internal"
    | .required => "required"
    | .readonly => "readonly"

/-- A message: its name, what it carries, the channel it is bound to, and the variables by which it
    is matched to a running process. -/
structure Message where
  name : String
  dataType : Option DataType := none
  channel : Option String := none
  correlation : List String := []
deriving DecidableEq, Repr

/-- What an event waits for or raises. -/
inductive Event where
  | message (message : Message)
  | signal (name : String) (dataType : Option DataType)
  | timer (expression : String)
deriving DecidableEq, Repr

/-- What a node does. -/
inductive NodeKind where
  | start (trigger : Option Event)
  | finish (message : Option Message)
  | action (script : Option String)
  | workItem (handler : String) (parameters : Dict String)
  | gateway (type : GatewayType)
  | catchEvent (event : Event)
  | throwEvent (event : Event)
  | boundaryEvent (attachedTo : String) (event : Event)
  | sendTask (message : Message)
  | receiveTask (message : Message)
  | subProcessCall (processId : String) (waitForCompletion independent : Bool)
  | composite
deriving DecidableEq

/-- The names of the kinds of node, in the order of their indices. -/
def NodeKind.typeNames : List String :=
  ["Start", "End", "Action", "WorkItem", "Gateway", "CatchEvent", "ThrowEvent", "BoundaryEvent",
    "SendTask", "ReceiveTask", "SubProcessCall", "Composite"]

/-- The name of the kind of a node. -/
def NodeKind.typeName : NodeKind → String
  | .start .. => "Start"
  | .finish .. => "End"
  | .action .. => "Action"
  | .workItem .. => "WorkItem"
  | .gateway .. => "Gateway"
  | .catchEvent .. => "CatchEvent"
  | .throwEvent .. => "ThrowEvent"
  | .boundaryEvent .. => "BoundaryEvent"
  | .sendTask .. => "SendTask"
  | .receiveTask .. => "ReceiveTask"
  | .subProcessCall .. => "SubProcessCall"
  | .composite => "Composite"

/-- A node of the graph. -/
structure Node where
  id : String
  name : Option String := none
  /-- The composite that the node stands in. -/
  parent : Option String := none
  kind : NodeKind
deriving DecidableEq

/-- Whether a node stands in no composite. -/
def Node.isTopLevel (n : Node) : Bool :=
  n.parent.isNone

/-- Whether a node begins a process. -/
def Node.isStart (n : Node) : Bool :=
  match n.kind with
  | .start _ => true
  | _ => false

/-- A connection from one node to another. -/
structure Connection where
  source : String
  target : String
deriving DecidableEq, Repr

/-- A variable of a process. -/
structure Variable where
  name : String
  dataType : DataType
  tags : List VariableTag := []
deriving DecidableEq, Repr

/-- Whether a variable bears a mark. -/
def Variable.hasTag (v : Variable) (tag : VariableTag) : Bool :=
  v.tags.contains tag

/-- A process definition. -/
structure Definition where
  id : String
  package : String := ""
  name : Option String := none
  version : Option String := none
  visibility : Visibility := .external
  kind : ProcessKind := .graph
  nodes : List Node := []
  connections : List Connection := []
  declarations : List Variable := []
  metadata : Dict Json := .empty
  /-- The resource that the definition was read from. -/
  resource : Option String := none
  dynamic : Bool := false

namespace Definition

/-- The first node with an id. -/
def node? (p : Definition) (id : String) : Option Node :=
  p.nodes.find? (fun n => n.id == id)

/-- The name of a process, or its id when it has none. -/
def displayName (p : Definition) : String :=
  p.name.getD p.id

/-- The id of the process that takes part in a compilation of nothing. -/
def placeholderId : String := "procflow.placeholder"

/-- The process that takes part in a compilation of nothing. -/
def placeholder : Definition :=
  { id := placeholderId
    kind := .placeholder
    visibility := .internal
    name := some "Placeholder" }

end Definition

end Flowsmith

import Flowsmith.Definition.Basic
import Flowsmith.Naming
import Flowsmith.Source.Token
import Flowsmith.Text.Blank

/-!
Lowering: the node graph of a process as an expression that builds its runtime definition, and a
handler function for every node that carries behaviour of its own. The structure of the graph is
checked first.
-/

namespace Flowsmith

/-- Why a process cannot be lowered. -/
inductive LoweringError where
  | noStartNode
  | unknownConnectionNode (source target missing : String)
  | unknownParent (node parent : String)
  | parentNotComposite (node parent parentType : String)
  | unknownAttachment (node host : String)
  | emptySubProcessTarget (node : String)
  | handlerCollision (key first second : String)
  | subProcessFieldCollision (field first second : String)
  | other (text : String)
deriving DecidableEq, Repr

/-- The wording of an error. -/
def LoweringError.message : LoweringError → String
  | .noStartNode => "process has no start node"
  | .unknownConnectionNode source target missing =>
      s!"connection {source} -> {target} references unknown node '{missing}'"
  | .unknownParent node parent => s!"node '{node}' names unknown parent '{parent}'"
  | .parentNotComposite node parent parentType =>
      s!"node '{node}' names parent '{parent}' which is a {parentType}, not a Composite"
  | .unknownAttachment node host =>
      s!"boundary event '{node}' is attached to unknown node '{host}'"
  | .emptySubProcessTarget node => s!"sub-process call '{node}' has an empty process id"
  | .handlerCollision key first second =>
      s!"nodes '{first}' and '{second}' both lower to handler '{key}'"
  | .subProcessFieldCollision field first second =>
      s!"called processes '{first}' and '{second}' both map to field '{field}'"
  | .other text => text

namespace Lowering

/-- The node that an id refers to: the last one that bears it. -/
def referent? (d : Definition) (id : String) : Option Node :=
  d.nodes.reverse.find? (fun n => n.id == id)

/-- What is wrong with the parent of a node. -/
def parentFault? (d : Definition) (n : Node) : Option LoweringError :=
  match n.parent with
  | none => none
  | some parent =>
      match referent? d parent with
      | none => some (.unknownParent n.id parent)
      | some p =>
          match p.kind with
          | .composite => none
          | kind => some (.parentNotComposite n.id parent kind.typeName)

/-- What is wrong with the host of a boundary event or the target of a call. -/
def kindFault? (d : Definition) (n : Node) : Option LoweringError :=
  match n.kind with
  | .boundaryEvent host _ =>
      if (referent? d host).isNone then some (.unknownAttachment n.id host) else none
  | .subProcessCall processId _ _ =>
      if Text.blank processId then some (.emptySubProcessTarget n.id) else none
  | _ => none

/-- What is wrong with a connection; its source is looked at first. -/
def connectionFault? (d : Definition) (c : Connection) : Option LoweringError :=
  [c.source, c.target].findSome? fun endpoint =>
    if (referent? d endpoint).isNone then
      some (.unknownConnectionNode c.source c.target endpoint)
    else none

/-- The first fault of the graph. Only a placeholder may do without a start node. -/
def structureFault? (d : Definition) : Option LoweringError :=
  if d.kind ≠ .placeholder ∧ ¬ d.nodes.any Node.isStart then some .noStartNode
  else
    (d.nodes.findSome? fun n => (parentFault? d n).or (kindFault? d n)).or
      (d.connections.findSome? (connectionFault? d))

/-- The name of the handler of a node. -/
def handlerKey (n : Node) : String :=
  match n.kind with
  | .workItem .. => "work_item_" ++ Naming.sanitize n.id
  | _ => "action_" ++ Naming.sanitize n.id

open Source

/-- The call that tells the event of a node. -/
def eventCall : Event → List Token
  | .message m => methodCall "message" [text m.name]
  | .signal name _ => methodCall "signal" [text name]
  | .timer expression => methodCall "timer" [text expression]

/-- The calls that belong to the kind of a node. -/
def detailCalls (n : Node) : List Token :=
  match n.kind with
  | .start trigger => (trigger.map eventCall).getD []
  | .finish message => (message.map fun m => methodCall "message" [text m.name]).getD []
  | .catchEvent event => eventCall event
  | .throwEvent event => eventCall event
  | .boundaryEvent host event => methodCall "attached_to" [text host] ++ eventCall event
  | .sendTask m => methodCall "message" [text m.name]
  | .receiveTask m => methodCall "message" [text m.name]
  | .gateway type => methodCall "gateway" [text (Keyword.text type)]
  | .subProcessCall processId waits independent =>
      methodCall "sub_process" [text processId, flag waits, flag independent]
  | .action (some _) => methodCall "handler" [text (handlerKey n)]
  | .workItem .. => methodCall "handler" [text (handlerKey n)]
  | .action none => []
  | .composite => []

/-- The expression that builds a node. -/
def nodeTokens (n : Node) : List Token :=
  path ["procflow_runtime", "definition", "NodeSpec", "new"] ++
    [arguments [text n.id, text n.kind.typeName]] ++
    (n.parent.map fun p => methodCall "parent" [text p]).getD [] ++
    (n.name.map fun name => methodCall "name" [text name]).getD [] ++
    detailCalls n

/-- The version of a process that names none. -/
def defaultVersion : String := "1.0"

/-- The expression that builds the definition of a process. -/
def definitionTokens (d : Definition) : List Token :=
  path ["procflow_runtime", "definition", "ProcessDefinition", "builder"] ++
    [arguments [text d.id, text (d.version.getD defaultVersion)]] ++
    methodCall "dynamic" [flag d.dynamic] ++
    d.nodes.flatMap (fun n => methodCall "node" [nodeTokens n]) ++
    d.connections.flatMap (fun c => methodCall "connect" [text c.source, text c.target]) ++
    methodCall "build" []

/-- A handler function with the given name and body. -/
def handlerTokens (key : String) (body : List Token) : List Token :=
  words ["pub", "fn", key] ++
    [.group .round (words ["ctx"] ++ [mark ':', mark '&'] ++ words ["mut"] ++
      path ["procflow_runtime", "context", "NodeContext"] ++
      [mark '<', .mark '\x27' true, .word "_", mark '>'])] ++
    marks '-' '>' ++ path ["procflow_runtime", "Result"] ++
    [mark '<', .group .round [], mark '>', .group .curly body]

/-- The parameters of a work item, as a list of pairs. -/
def parameterTokens (parameters : Dict String) : List Token :=
  [mark '&', .group .square (separated [mark ',']
    (parameters.entries.map fun e => [arguments [text e.1, text e.2]]))]

/-- What the handler of a node does; none for nodes without behaviour of their own. -/
def handlerBody? (n : Node) : Option (List Token) :=
  match n.kind with
  | .action (some script) => some (words ["ctx"] ++ methodCall "run_script" [text script])
  | .workItem handler parameters =>
      some (words ["ctx"] ++
        methodCall "execute_work_item" [text handler, parameterTokens parameters])
  | _ => none

/-- A handler function and the node it was made for. -/
structure Handler where
  owner : String
  source : List Token

/-- Add the handler of a node; no two nodes may share one. -/
def addHandler (found : Dict Handler) (n : Node) : Except LoweringError (Dict Handler) :=
  match handlerBody? n with
  | none => .ok found
  | some body =>
      let key := handlerKey n
      match found.get? key with
      | some first => .error (.handlerCollision key first.owner n.id)
      | none => .ok (found.insert key ⟨n.id, handlerTokens key body⟩)

/-- The handlers of a process, by their names. -/
def handlers (d : Definition) : Except LoweringError (Dict Handler) :=
  d.nodes.foldlM addHandler .empty

end Lowering

/-- The lowered form of a process. -/
structure LoweredGraph where
  /-- The expression that builds the runtime definition. -/
  definition : String
  /-- The sources of the handler functions, by their names. -/
  handlers : Dict String

/-- Lower a process. -/
def lower (d : Definition) : Except LoweringError LoweredGraph :=
  match Lowering.structureFault? d with
  | some fault => .error fault
  | none => do
      let handlers ← Lowering.handlers d
      return {
        definition := Source.Token.text (Lowering.definitionTokens d)
        handlers := handlers.map fun h => Source.Token.text h.source }

end Flowsmith

import Flowsmith.Naming
import Flowsmith.Text.Blank
import Flowsmith.Validation.Finding
import Flowsmith.Validation.Reach

/-!
Validation of a definition: its identity, its graph, its variables, and the names of what its nodes
send, await and call.
-/

namespace Flowsmith

namespace Validation

/-- The first character of an identifier. -/
def isWordStart (c : Char) : Bool :=
  c.isAlpha || c == '_'

/-- Whether a package segment is an identifier. -/
def validSegment (segment : List Char) : Bool :=
  segment.head?.any isWordStart && segment.all Naming.isWordChar

/-- The id and the package; the empty package is the root. -/
def checkIdentity (d : Definition) : Validation :=
  let idErrors := if Text.blank d.id then [ValidationError.emptyProcessId] else []
  let segments := d.package.toList.splitOn '.'
  let packageErrors :=
    if d.package = "" then []
    else match segments.find? (fun s => !validSegment s) with
      | some s => [ValidationError.invalidPackage d.package (String.ofList s)]
      | none => []
  { errors := idErrors ++ packageErrors }

/-- The ids that occur before in the list, each time they occur again. -/
def repeatedIds (before : List String) : List String → List String
  | [] => []
  | id :: rest => (if before.contains id then [id] else []) ++ repeatedIds (id :: before) rest

/-- The endpoints of a connection that are no nodes. -/
def connectionErrors (ids : List String) (c : Connection) : List ValidationError :=
  [c.source, c.target].filterMap fun endpoint =>
    if ids.contains endpoint then none
    else some (.unknownConnectionNode c.source c.target endpoint ids)

/-- The parent of a node, if it is no node. -/
def parentError? (ids : List String) (n : Node) : Option ValidationError :=
  n.parent.bind fun parent =>
    if ids.contains parent then none else some (.unknownParent n.id parent ids)

/-- Whether a node is attached to another one. -/
def isBoundary (n : Node) : Bool :=
  match n.kind with
  | .boundaryEvent .. => true
  | _ => false

/-- The nodes of the process itself that no start node leads to. -/
def unreachable (d : Definition) : List ValidationWarning :=
  let reached := Reach.reachable d
  (d.nodes.filter fun n => n.isTopLevel && !reached.contains n.id && !isBoundary n).map
    fun n => .unreachableNode n.id

/-- The graph. Reachability is looked at only when there are connections. -/
def checkGraph (d : Definition) : Validation :=
  if d.nodes.isEmpty then
    { warnings := if d.kind = .placeholder then [] else [.emptyProcess] }
  else
    let ids := d.nodes.map Node.id
    { errors := (repeatedIds [] ids).map .duplicateNodeId ++
        d.connections.flatMap (connectionErrors ids) ++
        d.nodes.filterMap (parentError? ids)
      warnings := if d.connections.isEmpty then [] else unreachable d }

/-- The variables from an index on; `seen` holds the names before. -/
def variableErrors (index : Nat) (seen : List String) : List Variable → List ValidationError
  | [] => []
  | v :: rest =>
      if Text.blank v.name then .emptyVariableName index :: variableErrors (index + 1) seen rest
      else if seen.contains v.name then
        .duplicateVariable v.name :: variableErrors (index + 1) seen rest
      else variableErrors (index + 1) (v.name :: seen) rest

/-- The message of a node must have a name. -/
def messageError? (node : String) (m : Message) : Option ValidationError :=
  if Text.blank m.name then some (.unnamedMessage node) else none

/-- The message or signal of an event must have a name. -/
def eventError? (node : String) : Event → Option ValidationError
  | .message m => messageError? node m
  | .signal name _ => if Text.blank name then some (.unnamedSignal node) else none
  | .timer _ => none

/-- The error about what a node sends, awaits or calls. -/
def nodeError? (n : Node) : Option ValidationError :=
  match n.kind with
  | .start (some event) => eventError? n.id event
  | .catchEvent event => eventError? n.id event
  | .throwEvent event => eventError? n.id event
  | .boundaryEvent _ event => eventError? n.id event
  | .finish (some m) => messageError? n.id m
  | .sendTask m => messageError? n.id m
  | .receiveTask m => messageError? n.id m
  | .subProcessCall processId _ _ =>
      if Text.blank processId then some (.emptySubProcessTarget n.id) else none
  | _ => none

/-- The warning that a node calls the process that it belongs to. -/
def nodeWarning? (d : Definition) (n : Node) : Option ValidationWarning :=
  match n.kind with
  | .subProcessCall processId _ _ =>
      if !Text.blank processId && processId == d.id then some (.selfCall n.id) else none
  | _ => none

/-- The names of what the nodes send, await and call. -/
def checkTriggers (d : Definition) : Validation :=
  { errors := d.nodes.filterMap nodeError?, warnings := d.nodes.filterMap (nodeWarning? d) }

end Validation

/-- The findings about a definition. -/
def Definition.validate (d : Definition) : Validation :=
  Validation.checkIdentity d ++ Validation.checkGraph d ++
    { errors := Validation.variableErrors 0 [] d.declarations } ++ Validation.checkTriggers d

end Flowsmith

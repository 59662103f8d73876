import Flowsmith.Lowering
import Flowsmith.Trigger

/-!
Executable models: the lowered form of a process together with its triggers and the processes that
it calls. One is kept for each process id.
-/

namespace Flowsmith

/-- The processes that a process calls: the field that holds each one, and the first node that calls
    it. -/
structure SubProcesses where
  fields : Dict String := .empty
  callers : Dict String := .empty

namespace SubProcesses

/-- No processes. -/
def empty : SubProcesses := {}

/-- Take account of a node. Two called processes may not share a field. -/
def add (found : SubProcesses) (n : Node) : Except LoweringError SubProcesses :=
  match n.kind with
  | .subProcessCall child _ _ =>
      if found.fields.contains child then .ok found
      else
        let field := Naming.subProcessField child
        match found.fields.entries.find? (fun e => e.2 == field) with
        | some (first, _) => .error (.subProcessFieldCollision field first child)
        | none => .ok ⟨found.fields.insert child field, found.callers.insert child n.id⟩
  | _ => .ok found

/-- The processes that a process calls. -/
def ofDefinition (d : Definition) : Except LoweringError SubProcesses :=
  d.nodes.foldlM add empty

end SubProcesses

/-- What the generated code of a process is made from. -/
structure Executable where
  processId : String
  package : String
  /-- The type that generated code enters the process by. -/
  className : String
  triggers : List Trigger
  subProcesses : SubProcesses
  /-- The sources of the handler functions, by their names. -/
  handlers : Dict String
  /-- The expression that builds the runtime definition. -/
  definition : String
  /-- Whether the process can be started without a message or a signal. -/
  startable : Bool
  dynamic : Bool

/-- Whether a process has a start node of its own that waits for nothing. -/
def Definition.isStartable (d : Definition) : Bool :=
  d.nodes.any fun n => n.isTopLevel && (match n.kind with | .start none => true | _ => false)

/-- A process that could not be lowered. -/
structure GenerationError where
  processId : String
  package : String
  cause : LoweringError
deriving DecidableEq, Repr

/-- The wording of an error. -/
def GenerationError.message (e : GenerationError) : String :=
  s!"Failed to generate executable model for process '{e.processId}' in package '{e.package}': " ++
    e.cause.message

/-- A way to lower processes. -/
abbrev Lower := Definition → Except LoweringError LoweredGraph

/-- The executable model of a process, lowered in the given way. -/
def Executable.ofDefinition (lower : Lower) (d : Definition) : Except GenerationError Executable :=
  let result : Except LoweringError Executable := do
    let lowered ← lower d
    let subProcesses ← SubProcesses.ofDefinition d
    return {
      processId := d.id
      package := d.package
      className := (Names.ofId d.id d.package).processClass
      triggers := d.triggers
      subProcesses
      handlers := lowered.handlers
      definition := lowered.definition
      startable := d.isStartable
      dynamic := d.dynamic }
  match result with
  | .ok e => .ok e
  | .error cause => .error ⟨d.id, d.package, cause⟩

/-- The triggers of one kind. -/
def Executable.triggersOf (e : Executable) (kind : TriggerKind) : List Trigger :=
  e.triggers.filter (fun t => t.kind == kind)

/-- Executable models by process id, and how often a process was lowered for them. -/
structure ExecutableStore where
  models : Dict Executable := .empty
  lowerings : Nat := 0

namespace ExecutableStore

/-- The model of a process id, if there is one. -/
def get? (s : ExecutableStore) (processId : String) : Option Executable :=
  s.models.get? processId

/-- The model of a process: the one that its id has already, or a new one. Failures are not kept. -/
def generate (s : ExecutableStore) (lower : Lower) (d : Definition) :
    Except GenerationError Executable × ExecutableStore :=
  match s.get? d.id with
  | some e => (.ok e, s)
  | none =>
      match Executable.ofDefinition lower d with
      | .ok e => (.ok e, ⟨s.models.insert d.id e, s.lowerings + 1⟩)
      | .error err => (.error err, ⟨s.models, s.lowerings + 1⟩)

end ExecutableStore

end Flowsmith

import Flowsmith.Artifact
import Flowsmith.Batch.Unit

/-!
The sources of a process. Data models, entry point and instance are its core: without any of them
there is none. A REST resource, consumers and producers stand each for itself.
-/

namespace Flowsmith

/-- What the pages of all processes have in common. -/
structure Press where
  config : Config
  engine : Engine
  injection : Injection
  /-- The names of the processes that can be called, by their ids. -/
  callable : Dict Names

/-- The type of a payload. -/
def payloadType (dataType : Option DataType) : String :=
  (dataType.map DataType.sourceType).getD "serde_json::Value"

/-- The triggers of a list whose names were not there before. -/
def distinctByName (before : List String) : List Trigger → List Trigger
  | [] => []
  | t :: rest =>
      if before.contains t.name then distinctByName before rest
      else t :: distinctByName (before ++ [t.name]) rest

namespace ProcessUnit

/-- The path of the type of a data model; processes without models have values of any shape. -/
def modelPath (u : ProcessUnit) (className : String) : String :=
  if u.models.isSome then u.names.classModulePath className else "serde_json::Value"

/-- The path of the type that the process is entered by. -/
def processPath (u : ProcessUnit) : String :=
  u.names.classModulePath u.names.processClass

/-- The first trigger of each name, of one kind. -/
def distinctTriggers (u : ProcessUnit) (kind : TriggerKind) : List Trigger :=
  distinctByName [] (u.triggers.filter (fun t => t.kind == kind))

end ProcessUnit

namespace Press

/-- The artifact of a type, with the text of its page. -/
def artifact (press : Press) (names : Names) (className : String) (category : Category)
    (page : Page) : Except Failure Artifact :=
  match press.engine page with
  | .ok text => .ok { path := names.classPath className, content := .text text, category }
  | .error e => .error (.templating className e)

/-- The artifact of a data model. -/
def modelArtifact (press : Press) (u : ProcessUnit) (m : DataModel) : Except Failure Artifact :=
  press.artifact u.names m.className .model (.model (ModelPage.ofModel u.definition.id m))

/-- The artifacts of the data models; processes without models have none. -/
def modelArtifacts (press : Press) (u : ProcessUnit) : Except Failure (List Artifact) :=
  match u.models with
  | none => .ok []
  | some models => models.toList.mapM (press.modelArtifact u)

/-- The field that holds a called process. It must be one of those that can be called. -/
def subProcessField (press : Press) (u : ProcessUnit) (entry : String × String) :
    Except Failure HostField :=
  let (child, field) := entry
  match press.callable.get? child with
  | some names => .ok (.subProcess field (names.classModulePath names.processClass))
  | none =>
      let caller := (u.executable.subProcesses.callers.get? child).getD ""
      .error (.unknownSubProcess caller child)

/-- The page of the entry point with the given fields. -/
def entryPage (press : Press) (u : ProcessUnit) (fields : List HostField) : EntryPage :=
  { processId := u.definition.id
    members := .ofFields press.injection s!"Process `{u.definition.displayName}`."
      u.names.processClass fields
    version := u.definition.version.getD "1.0"
    instancePath := u.names.classModulePath u.names.instanceClass
    startable := u.executable.startable
    dynamic := u.executable.dynamic
    definition := u.executable.definition
    handlers := u.executable.handlers.entries.map fun e => ⟨e.1, e.2⟩ }

/-- The artifact of the entry point. -/
def entryArtifact (press : Press) (u : ProcessUnit) : Except Failure Artifact := do
  let called ← u.executable.subProcesses.fields.entries.mapM (press.subProcessField u)
  press.artifact u.names u.names.processClass .process
    (.entry (press.entryPage u (.application :: called)))

/-- The page of the instance. -/
def instancePage (u : ProcessUnit) : InstancePage :=
  { processId := u.definition.id
    className := u.names.instanceClass
    modelPath := u.modelPath u.names.modelClass }

/-- The artifact of the instance. -/
def instanceArtifact (press : Press) (u : ProcessUnit) : Except Failure Artifact :=
  press.artifact u.names u.names.instanceClass .processInstance
    (.runningInstance (instancePage u))

/-- The core of a process: its data models, its entry point and its instance. -/
def coreArtifacts (press : Press) (u : ProcessUnit) : Except Failure (List Artifact) := do
  let models ← press.modelArtifacts u
  let entry ← press.entryArtifact u
  let inst ← press.instanceArtifact u
  return models ++ [entry, inst]

/-- The endpoint of a signal. -/
def signalEndpoint (t : Trigger) : SignalEndpoint :=
  { name := t.name, method := Naming.field t.name, payload := payloadType t.dataType }

/-- The endpoints of the signals that start a process, or of those that do not. -/
def signalEndpoints (u : ProcessUnit) (start : Bool) : List SignalEndpoint :=
  let signals := u.triggers.filter fun t => t.kind == .signal && t.topLevel && t.start == start
  (distinctByName [] signals).map signalEndpoint

/-- Whether a process gets a REST resource. -/
def exposesRest (press : Press) (u : ProcessUnit) : Bool :=
  press.config.restEnabled && u.definition.visibility == .external && u.models.isSome

/-- The page of the REST resource. -/
def restPage (press : Press) (u : ProcessUnit) : RestPage :=
  { processId := u.definition.id
    members := .ofFields press.injection s!"REST resource of process `{u.definition.displayName}`."
      u.names.resourceClass [.processHandle u.processPath, .application]
    route := "/" ++ u.definition.id
    inputModelPath := u.modelPath u.names.inputModelClass
    outputModelPath := u.modelPath u.names.outputModelClass
    reactive := press.config.restStyle == .reactive
    transactional := press.config.transactionsEnabled
    startable := u.executable.startable
    startSignals := signalEndpoints u true
    instanceSignals := signalEndpoints u false }

/-- The artifact of the REST resource, if there is to be one. -/
def restArtifacts (press : Press) (u : ProcessUnit) : List (Except Failure Artifact) :=
  if press.exposesRest u then
    [press.artifact u.names u.names.resourceClass .rest (.rest (press.restPage u))]
  else []

/-- The page of the consumer of a trigger. -/
def consumerPage (press : Press) (u : ProcessUnit) (t : Trigger) : ConsumerPage :=
  { processId := u.definition.id
    members := .ofFields press.injection
      s!"Consumes `{t.name}` messages for process `{u.definition.id}`."
      (u.names.consumerClass t.name) [.processHandle u.processPath, .application]
    trigger := t.name
    channel := t.declaredChannel
    payload := payloadType t.dataType
    start := t.start
    correlation := t.correlation }

/-- The artifact of the consumer of a trigger. -/
def consumerArtifact (press : Press) (u : ProcessUnit) (t : Trigger) : Except Failure Artifact :=
  press.artifact u.names (u.names.consumerClass t.name) .messageConsumer
    (.consumer (press.consumerPage u t))

/-- The page of the producer of a trigger. -/
def producerPage (press : Press) (u : ProcessUnit) (t : Trigger) : ProducerPage :=
  { processId := u.definition.id
    members := .ofFields press.injection
      s!"Produces `{t.name}` messages for process `{u.definition.id}`."
      (u.names.producerClass t.name) [.emitter (payloadType t.dataType) t.declaredChannel]
    trigger := t.name
    channel := t.declaredChannel
    payload := payloadType t.dataType }

/-- The artifact of the producer of a trigger. -/
def producerArtifact (press : Press) (u : ProcessUnit) (t : Trigger) : Except Failure Artifact :=
  press.artifact u.names (u.names.producerClass t.name) .messageProducer
    (.producer (press.producerPage u t))

/-- What a process has beyond its core. Each artifact succeeds or fails for itself. -/
def optionalArtifacts (press : Press) (u : ProcessUnit) : List (Except Failure Artifact) :=
  press.restArtifacts u ++
    (u.distinctTriggers .consume).map (press.consumerArtifact u) ++
    (u.distinctTriggers .produce).map (press.producerArtifact u)

end Press

end Flowsmith

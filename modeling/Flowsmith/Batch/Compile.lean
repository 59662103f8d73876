import Flowsmith.Batch.Sources
import Flowsmith.Container
import Flowsmith.Index

/-!
Compilation of a batch. The sources of one process after the other are put into a set of artifacts;
then come the container, the index and copies of the definitions. A process that fails leaves the
others as they are; whether failures are fatal is decided at the end.
-/

namespace Flowsmith

/-- The exchangeable parts of a compilation. -/
structure Toolchain where
  parsers : List ResourceParser := [.json]
  lower : Lower := Flowsmith.lower
  engine : Engine := .builtin
  injection : Injection := .none

/-- The toolchain that a configuration asks for. -/
def Toolchain.ofConfig (config : Config) : Toolchain :=
  { injection := config.injection }

/-- What the sources of some processes have come to. -/
structure Progress where
  artifacts : ArtifactSet := {}
  errors : Report := []
  compiled : List ProcessUnit := []

namespace Progress

/-- Note the failure of a process. -/
def fail (p : Progress) (u : ProcessUnit) (failure : Failure) : Progress :=
  { p with errors := p.errors ++ [.ofDefinition u.definition failure] }

/-- Add the sources of a process whose core has been made. The core must not meet a path that is
    taken. -/
def accept (press : Press) (p : Progress) (u : ProcessUnit) (core : List Artifact) : Progress :=
  match core.find? (fun a => p.artifacts.contains a.path) with
  | some taken => p.fail u (.pathCollision taken.path.text)
  | none =>
      let optional := press.optionalArtifacts u
      { artifacts := p.artifacts.registerAll (core ++ successes optional)
        errors := p.errors ++ (failures optional).map (ErrorRecord.ofDefinition u.definition)
        compiled := p.compiled ++ [u] }

/-- Add the sources of a process. -/
def add (press : Press) (p : Progress) (u : ProcessUnit) : Progress :=
  match press.coreArtifacts u with
  | .error failure => p.fail u failure
  | .ok core => p.accept press u core

end Progress

/-- The outcome of a compilation. -/
structure Output where
  artifacts : ArtifactSet
  errors : Report
  channelWarnings : List ChannelWarning
  /-- Findings about definitions, each with the id of the process. -/
  validationWarnings : List (String × ValidationWarning)
  /-- The ids of the processes that have sources, in the order of the batch. -/
  compiled : List String
  /-- The triggers of each workflow that lack connector properties, where there are any. -/
  missing : List (List Trigger)

/-- The wordings of all that was found. -/
def warningMessages (channel : List ChannelWarning)
    (validation : List (String × ValidationWarning)) (dropped : List Dropped) : List String :=
  channel.map ChannelWarning.message ++
    validation.map (fun (id, w) => s!"[{id}] {w.message}") ++
    dropped.map Dropped.message

/-- The wordings of all warnings. -/
def Output.warnings (o : Output) : List String :=
  warningMessages o.channelWarnings o.validationWarnings o.artifacts.dropped

namespace ProcessUnit

/-- The process in the container. -/
def containerEntry (u : ProcessUnit) : ContainerEntry :=
  { processId := u.definition.id
    type := Source.path (u.names.classSegments u.names.processClass) }

/-- The process in the index. -/
def indexEntry (u : ProcessUnit) : IndexEntry :=
  .ofTriggers u.names u.definition.id u.definition.package u.triggers

/-- The copy of the resource that the process was read from. -/
def copy? (u : ProcessUnit) : Option Artifact :=
  u.source.contents.map (resourceCopy u.definition.package u.source.origin)

end ProcessUnit

/-- The artifacts of a list whose paths were not there before. -/
def distinctByPath (before : List Path) : List Artifact → List Artifact
  | [] => []
  | a :: rest =>
      if before.any a.path.same then distinctByPath before rest
      else a :: distinctByPath (before ++ [a.path]) rest

/-- The processes of a batch, as far as they can be lowered, and the failures of the others: first
    those of data models, then those of lowering. -/
def Batch.lowered (tools : Toolchain) (config : Config) (b : Batch) : List Lowered × Report :=
  let options : ModelOptions := ⟨config.validationEnabled, config.openapiEnabled⟩
  let modelled := b.members.map (Modelled.ofCollected options)
  let lowered := (successes modelled).map (Lowered.ofModelled tools.lower)
  (successes lowered, failures modelled ++ failures lowered)

/-- The names of lowered processes, by their ids. -/
def callableNames (lowered : List Lowered) : Dict Names :=
  Dict.ofList (lowered.map fun l =>
    (l.source.id, Names.ofId l.source.id l.source.definition.package))

/-- What the pages of lowered processes have in common: they can call one another. -/
def Press.ofLowered (tools : Toolchain) (config : Config) (lowered : List Lowered) : Press :=
  { config
    engine := tools.engine
    injection := tools.injection
    callable := callableNames lowered }

/-- The findings about channels: those about the bindings, then those about each process. -/
def channelFindings (messaging : Messaging) (lowered : List Lowered) : List ChannelWarning :=
  Channel.ambiguities messaging.allBindings ++
    lowered.flatMap fun l => (l.resolved messaging).warnings

namespace Progress

/-- The sources of lowered processes, one after the other. -/
def ofLowered (tools : Toolchain) (config : Config) (lowered : List Lowered) : Progress :=
  (lowered.map (Lowered.toUnit config.messaging)).foldl
    (add (Press.ofLowered tools config lowered)) {}

/-- The container of the processes that have sources. -/
def container (injection : Injection) (p : Progress) : Artifact :=
  Container.artifact injection.injects (p.compiled.map ProcessUnit.containerEntry)

/-- The sources of processes, and their container. -/
def sources (injection : Injection) (p : Progress) : ArtifactSet :=
  p.artifacts.register (p.container injection)

/-- The index of the processes that have sources. -/
def index (injection : Injection) (channel : List ChannelWarning)
    (validation : List (String × ValidationWarning)) (p : Progress) : Index :=
  let sources := p.sources injection
  { fingerprint := sources.fingerprint
    processes := p.compiled.map ProcessUnit.indexEntry
    warnings := warningMessages channel validation sources.dropped }

/-- The copies of definition resources. Of several for one path only the first is looked at. -/
def copies (p : Progress) : List Artifact :=
  distinctByPath [] (p.compiled.filterMap ProcessUnit.copy?)

/-- All artifacts: sources, container, index and copies. -/
def allArtifacts (injection : Injection) (channel : List ChannelWarning)
    (validation : List (String × ValidationWarning)) (p : Progress) : ArtifactSet :=
  ((p.sources injection).register (p.index injection channel validation).artifact).registerAll
    p.copies

end Progress

/-- Compile a batch. -/
def Batch.compile (tools : Toolchain) (config : Config) (b : Batch) : Output :=
  let (lowered, errors) := b.lowered tools config
  let progress := Progress.ofLowered tools config lowered
  let channelWarnings := channelFindings config.messaging lowered
  { artifacts := progress.allArtifacts tools.injection channelWarnings b.warnings
    errors := b.errors ++ errors ++ progress.errors
    channelWarnings
    validationWarnings := b.warnings
    compiled := progress.compiled.map fun u => u.definition.id
    missing := (lowered.map (Lowered.missing config.messaging)).filter (fun ts => !ts.isEmpty) }

/-- Why there is no outcome. -/
inductive CompileError where
  | duplicateId (duplicate : DuplicateId)
  | failed (errors : Report)

/-- The wording of an error. -/
def CompileError.message : CompileError → String
  | .duplicateId d => d.message
  | .failed errors => Report.message errors

/-- Whatever comes of the definitions and resources, with all failures noted. -/
def compileSoftly (tools : Toolchain) (config : Config) (given : List Definition)
    (resources : List Resource) : Except DuplicateId Output :=
  match Batch.collect tools.parsers config.emitPlaceholderWhenEmpty given resources with
  | .error d => .error d
  | .ok batch => .ok (batch.compile tools config)

/-- The verdict on an outcome: failures are fatal if the configuration says so. -/
def Output.verdict (config : Config) (o : Output) : Except CompileError Output :=
  if config.failOnError && !o.errors.isEmpty then .error (.failed o.errors) else .ok o

/-- Compile definitions and resources. -/
def compile (tools : Toolchain) (config : Config) (given : List Definition)
    (resources : List Resource) : Except CompileError Output :=
  match compileSoftly tools config given resources with
  | .error d => .error (.duplicateId d)
  | .ok output => output.verdict config

end Flowsmith

import Flowsmith.Batch.Collect
import Flowsmith.Channel.Resolve
import Flowsmith.Config.Basic

/-!
Units: processes of a batch with all that their sources are made from. A process becomes a unit once
its data models are derived and it is lowered; then its triggers are settled.
-/

namespace Flowsmith

/-- A process with its data models. -/
structure Modelled where
  source : Collected
  /-- The data models, unless processes of this kind have none. -/
  models : Option DataModels

/-- A process with its data models and its executable model. -/
structure Lowered where
  source : Collected
  models : Option DataModels
  executable : Executable

/-- A process with all that its sources are made from. -/
structure ProcessUnit where
  source : Collected
  models : Option DataModels
  executable : Executable
  /-- The triggers, settled. -/
  triggers : List Trigger

/-- The results that succeeded. -/
def successes {ε α : Type} (results : List (Except ε α)) : List α :=
  results.filterMap fun
    | .ok a => some a
    | .error _ => none

/-- The errors of the others. -/
def failures {ε α : Type} (results : List (Except ε α)) : List ε :=
  results.filterMap fun
    | .ok _ => none
    | .error e => some e

/-- Derive the data models of a process. -/
def Modelled.ofCollected (options : ModelOptions) (c : Collected) : Except ErrorRecord Modelled :=
  if c.definition.kind.isModelless then .ok ⟨c, none⟩
  else match DataModels.derive options c.definition with
    | .ok models => .ok ⟨c, some models⟩
    | .error e => .error (.ofDefinition c.definition (.modelDerivation e))

/-- Lower a process. -/
def Lowered.ofModelled (lower : Lower) (m : Modelled) : Except ErrorRecord Lowered :=
  match Executable.ofDefinition lower m.source.definition with
  | .ok executable => .ok ⟨m.source, m.models, executable⟩
  | .error e => .error (.ofDefinition m.source.definition (.modelGeneration e))

namespace Lowered

/-- Settle the triggers of a process. Those of workflows are settled by their connector
    properties. -/
def resolved (messaging : Messaging) (l : Lowered) : Resolved :=
  match l.source.definition.kind with
  | .workflow => Channel.normalizeByProperties messaging.properties l.executable.triggers
  | .graph | .placeholder => Channel.normalize messaging.allBindings l.executable.triggers

/-- The triggers of a workflow that lack a connector property. -/
def missing (messaging : Messaging) (l : Lowered) : List Trigger :=
  match l.source.definition.kind with
  | .workflow => Channel.missingConnectors messaging.properties l.executable.triggers
  | .graph | .placeholder => []

/-- A process with its triggers settled. -/
def toUnit (messaging : Messaging) (l : Lowered) : ProcessUnit :=
  { source := l.source
    models := l.models
    executable := l.executable
    triggers := (l.resolved messaging).triggers }

end Lowered

namespace ProcessUnit

/-- The definition of the process. -/
def definition (u : ProcessUnit) : Definition := u.source.definition

/-- The names that are derived for the process. -/
def names (u : ProcessUnit) : Names :=
  Names.ofId u.definition.id u.definition.package

end ProcessUnit

end Flowsmith

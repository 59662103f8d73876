import Flowsmith.DataModel
import Flowsmith.Executable
import Flowsmith.Page.Basic

/-!
Reports of what failed. A failure belongs to a process, to a resource, or to the whole run.
-/

namespace Flowsmith

/-- What went wrong. -/
inductive Failure where
  /-- A definition could not be read, or is not well-formed. -/
  | collect (message : String)
  /-- No data models can be derived. -/
  | modelDerivation (error : ModelError)
  /-- The process could not be lowered. -/
  | modelGeneration (error : GenerationError)
  /-- A page could not be rendered. -/
  | templating (artifact : String) (error : TemplateError)
  /-- A process is called that is not there. -/
  | unknownSubProcess (node child : String)
  /-- Another process has the place of an artifact. -/
  | pathCollision (path : String)
deriving DecidableEq, Repr

/-- The wording of a failure. -/
def Failure.message : Failure → String
  | .collect message => s!"collect failed: {message}"
  | .modelDerivation error => s!"model derivation failed: {error.message}"
  | .modelGeneration error => error.message
  | .templating artifact error => s!"{artifact}: {error.message}"
  | .unknownSubProcess node child => s!"node '{node}' calls unknown process '{child}'"
  | .pathCollision path => s!"artifact path '{path}' is already taken by another process"

/-- A failure, and what it belongs to. -/
structure ErrorRecord where
  processId : Option String := none
  package : Option String := none
  resource : Option String := none
  failure : Failure
deriving DecidableEq, Repr

namespace ErrorRecord

/-- The failure of a process. -/
def ofDefinition (d : Definition) (failure : Failure) : ErrorRecord :=
  { processId := some d.id, package := some d.package, resource := d.resource, failure }

/-- What the record is about: a process, else a resource. -/
def subject (r : ErrorRecord) : String :=
  match r.processId, r.resource with
  | some id, _ => id
  | none, some resource => resource
  | none, none => "<unknown>"

/-- The resource, where it is not the subject. -/
def source (r : ErrorRecord) : String :=
  match r.processId, r.resource with
  | some _, some resource => s!" ({resource})"
  | _, _ => ""

/-- The wording of a record. -/
def message (r : ErrorRecord) : String :=
  s!"[{r.subject}]{r.source} {r.failure.message}"

/-- Whether a record is about a process. -/
def isFor (processId : String) (r : ErrorRecord) : Bool :=
  r.processId == some processId

end ErrorRecord

/-- The failures of a run, in the order in which they were found. -/
abbrev Report := List ErrorRecord

namespace Report

/-- The records about a process. -/
def forProcess (report : Report) (processId : String) : List ErrorRecord :=
  report.filter (ErrorRecord.isFor processId)

/-- Whether there is a record about a process. -/
def hasErrorsFor (report : Report) (processId : String) : Bool :=
  report.any (ErrorRecord.isFor processId)

/-- The wording of a report. -/
def message (report : Report) : String :=
  s!"Process code generation failed with {report.length} error(s):\n" ++
    String.join (report.map fun r => s!"\n  - {r.message}")

end Report

end Flowsmith

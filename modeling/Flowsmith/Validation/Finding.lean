import Flowsmith.Text.Similar

/-!
Findings of the validation of a definition. Errors keep the process out of the batch; warnings do
not.
-/

namespace Flowsmith

/-- Why a definition is refused. -/
inductive ValidationError where
  | emptyProcessId
  | invalidPackage (package segment : String)
  | duplicateNodeId (node : String)
  | unknownConnectionNode (source target missing : String) (available : List String)
  | unknownParent (node parent : String) (available : List String)
  | emptyVariableName (index : Nat)
  | duplicateVariable (name : String)
  | unnamedMessage (node : String)
  | unnamedSignal (node : String)
  | emptySubProcessTarget (node : String)
deriving DecidableEq, Repr

/-- What is odd about a definition. -/
inductive ValidationWarning where
  | emptyProcess
  | unreachableNode (node : String)
  | selfCall (node : String)
deriving DecidableEq, Repr

/-- The question whether another name was meant, when one is near. -/
def suggestion (missing : String) (available : List String) : String :=
  match Text.similar? missing available with
  | some name => s!". Did you mean '{name}'?"
  | none => ""

/-- The wording of an error. -/
def ValidationError.message : ValidationError → String
  | .emptyProcessId => "[E001] Process has no id"
  | .invalidPackage package segment =>
      s!"[E002] Package '{package}' has invalid segment '{segment}'"
  | .duplicateNodeId node => s!"[E010] Node id '{node}' is used more than once"
  | .unknownConnectionNode source target missing available =>
      s!"[E011] Connection {source} -> {target} references node '{missing}' which does not exist" ++
        suggestion missing available
  | .unknownParent node parent available =>
      s!"[E012] Node '{node}' names parent '{parent}' which does not exist" ++
        suggestion parent available
  | .emptyVariableName index => s!"[E020] Variable #{index} has an empty name"
  | .duplicateVariable name => s!"[E021] Variable '{name}' is declared more than once"
  | .unnamedMessage node => s!"[E030] Node '{node}' references a message without a name"
  | .unnamedSignal node => s!"[E031] Node '{node}' references a signal without a name"
  | .emptySubProcessTarget node => s!"[E040] Sub-process call '{node}' does not name a process"

/-- The wording of a warning. -/
def ValidationWarning.message : ValidationWarning → String
  | .emptyProcess => "[W001] Process has no nodes"
  | .unreachableNode node => s!"[W002] Node '{node}' is unreachable from every start node"
  | .selfCall node =>
      s!"[W050] Node '{node}' calls its own process. This recurses unless guarded."

/-- The findings about a definition, in the order in which they were made. -/
structure Validation where
  errors : List ValidationError := []
  warnings : List ValidationWarning := []
deriving DecidableEq, Repr

namespace Validation

/-- Whether the definition is accepted. -/
def isOk (v : Validation) : Bool :=
  v.errors.isEmpty

/-- All errors in one line. -/
def errorSummary (v : Validation) : String :=
  String.intercalate "; " (v.errors.map ValidationError.message)

/-- Findings followed by others. -/
def append (v w : Validation) : Validation :=
  ⟨v.errors ++ w.errors, v.warnings ++ w.warnings⟩

instance : Append Validation := ⟨append⟩

end Validation

end Flowsmith

import Flowsmith.Config.Basic
import Flowsmith.Text.Quoted

/-!
Collaborators of generated types. Each field has a role, and the role decides how the field comes by
its value: by an attribute, when a container hands it in, or else by an initializer.
-/

namespace Flowsmith

/-- What a field is for. -/
inductive FieldRole where
  /-- The process that the type belongs to. -/
  | processHandle
  /-- A process that is called. -/
  | subProcess
  /-- The emitter of messages on a channel. -/
  | emitter
  /-- The application around. -/
  | application
deriving DecidableEq, Repr

instance : Keyword FieldRole where
  all := [.processHandle, .subProcess, .emitter, .application]
  text
    | .processHandle => "processHandle"
    | .subProcess => "subProcess"
    | .emitter => "emitter"
    | .application => "application"

/-- A field that holds a collaborator. -/
structure HostField where
  name : String
  role : FieldRole
  /-- The type of the process, or of the payload. -/
  target : String
  /-- The channel of an emitter. -/
  channel : Option String := none
deriving DecidableEq, Repr

namespace HostField

/-- The process that the type belongs to. -/
def processHandle (target : String) : HostField :=
  { name := "process", role := .processHandle, target }

/-- A process that is called. -/
def subProcess (name target : String) : HostField :=
  { name, role := .subProcess, target }

/-- The emitter of messages on a channel. -/
def emitter (payload channel : String) : HostField :=
  { name := "emitter", role := .emitter, target := payload, channel := some channel }

/-- The application around. -/
def application : HostField :=
  { name := "application", role := .application, target := "procflow_runtime::Application" }

/-- The type of the field. -/
def type (f : HostField) : String :=
  match f.role with
  | .processHandle | .subProcess => s!"std::sync::Arc<{f.target}>"
  | .emitter => s!"procflow_runtime::messaging::Emitter<{f.target}>"
  | .application => f.target

end HostField

/-- A field as it is written: with its attributes, and with an initializer when it is not handed
    in. -/
structure AnnotatedField where
  name : String
  type : String
  role : FieldRole
  attributes : List String
  init : Option String
deriving DecidableEq, Repr

namespace Injection

/-- The attributes of a type. -/
def typeAttributes : Injection → List String
  | .none => []
  | .injected => ["#[procflow_runtime::component(scope = \"singleton\")]"]

/-- The attribute that asks for the value of a field. -/
def injectAttribute (f : HostField) : String :=
  match f.role, f.channel with
  | .emitter, some channel => s!"#[procflow_runtime::inject(channel = {Text.quoted channel})]"
  | .subProcess, _ => s!"#[procflow_runtime::inject(process = {Text.quoted f.name})]"
  | _, _ => "#[procflow_runtime::inject]"

/-- The expression that makes the value of a field. -/
def initializer (f : HostField) : String :=
  match f.role with
  | .processHandle | .subProcess => s!"std::sync::Arc::new({f.target}::new())"
  | .emitter =>
      let channel := f.channel.getD ""
      s!"procflow_runtime::messaging::Emitter::new({Text.quoted channel})"
  | .application => "procflow_runtime::Application::current()"

/-- A field as it is written. -/
def annotate (injection : Injection) (f : HostField) : AnnotatedField :=
  { name := f.name
    type := f.type
    role := f.role
    attributes := match injection with | .none => [] | .injected => [injectAttribute f]
    init := match injection with | .none => some (initializer f) | .injected => Option.none }

/-- Whether fields are handed in. -/
def injects (injection : Injection) : Bool :=
  injection == .injected

end Injection

end Flowsmith

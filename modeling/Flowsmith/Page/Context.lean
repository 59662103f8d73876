import Flowsmith.Page.Basic

/-!
Pages from JSON contexts. A context must have all that the rendering of its page comes to look at:
what stands in a branch not taken may be missing.
-/

namespace Flowsmith.Context

/-- A text of the context. -/
def string? (c : Json) (name : String) : Option String :=
  match c.field? name with
  | some (.string s) => some s
  | _ => none

/-- A truth value of the context. -/
def flag? (c : Json) (name : String) : Option Bool :=
  match c.field? name with
  | some (.bool b) => some b
  | _ => none

/-- A list of the context. -/
def list? (c : Json) (name : String) : Option (List Json) :=
  match c.field? name with
  | some (.array items) => some items
  | _ => none

/-- A list of texts of the context. -/
def strings? (c : Json) (name : String) : Option (List String) := do
  (← list? c name).mapM fun
    | .string s => some s
    | _ => none

/-- A truth value that is looked at only if `needed`. -/
def flagIf? (needed : Bool) (c : Json) (name : String) : Option Bool :=
  if needed then flag? c name else some false

/-- The initializer of a field, which is looked at only if `needed`; it may be null. -/
def init? (needed : Bool) (c : Json) : Option (Option String) :=
  if needed then
    match c.field? "init" with
    | some (.string s) => some (some s)
    | some .null => some none
    | _ => none
  else some none

/-- Whether a field holds a process that is called, by its role, which is looked at only if
    `needed`. -/
def isSubProcess? (needed : Bool) (c : Json) : Option Bool :=
  if needed then
    match c.field? "role" with
    | some (.string role) => some (role == "subProcess")
    | some _ => some false
    | none => none
  else some false

/-- A field of a type; `roles` says whether the page looks at the roles of fields. -/
def pageField? (roles injected : Bool) (c : Json) : Option PageField := do
  return {
    name := ← string? c "name"
    type := ← string? c "ty"
    attributes := ← strings? c "attributes"
    init := ← init? (!injected) c
    isSubProcess := ← isSubProcess? roles c }

/-- A type with its fields; `roles` says whether the page looks at the roles of fields. -/
def members? (roles : Bool) (c : Json) : Option Members := do
  let injected ← flag? c "injected"
  return {
    doc := ← string? c "doc"
    className := ← string? c "class_name"
    typeAttributes := ← strings? c "type_attributes"
    fields := ← (← list? c "fields").mapM (pageField? roles injected)
    injected }

def modelField? (validation full : Bool) (c : Json) : Option ModelPageField := do
  return {
    name := ← string? c "name"
    ident := ← string? c "ident"
    type := ← string? c "rust_type"
    required := ← flagIf? validation c "required"
    readonly := ← flagIf? full c "readonly" }

def modelPage? (c : Json) : Option ModelPage := do
  let m ← c.field? "model"
  let kind : ModelKind ← Keyword.parse? (← string? m "kind")
  let validation ← flag? m "validation"
  return {
    processId := ← string? c "process_id"
    kind
    className := ← string? m "class_name"
    openapi := ← flag? m "openapi"
    validation
    fields := ← (← list? m "fields").mapM (modelField? validation (kind == .full)) }

def pageHandler? (c : Json) : Option PageHandler := do
  return { key := ← string? c "key", body := ← string? c "body" }

def entryPage? (c : Json) : Option EntryPage := do
  return {
    processId := ← string? c "process_id"
    members := ← members? true c
    version := ← string? c "version"
    instancePath := ← string? c "instance_path"
    startable := ← flag? c "startable"
    dynamic := ← flag? c "dynamic"
    definition := ← string? c "definition"
    handlers := ← (← list? c "handlers").mapM pageHandler? }

def instancePage? (c : Json) : Option InstancePage := do
  return {
    processId := ← string? c "process_id"
    className := ← string? c "class_name"
    modelPath := ← string? c "model_path" }

def signalEndpoint? (c : Json) : Option SignalEndpoint := do
  return {
    name := ← string? c "name"
    method := ← string? c "method"
    payload := ← string? c "payload" }

def restPage? (c : Json) : Option RestPage := do
  let startable ← flag? c "startable"
  return {
    processId := ← string? c "process_id"
    members := ← members? false c
    route := ← string? c "route"
    inputModelPath := ← if startable then string? c "input_model_path" else some ""
    outputModelPath := ← string? c "output_model_path"
    reactive := ← flag? c "reactive"
    transactional := ← flag? c "transactional"
    startable
    startSignals := ← (← list? c "start_signals").mapM signalEndpoint?
    instanceSignals := ← (← list? c "instance_signals").mapM signalEndpoint? }

def consumerPage? (c : Json) : Option ConsumerPage := do
  return {
    processId := ← string? c "process_id"
    members := ← members? false c
    trigger := ← string? c "trigger"
    channel := ← string? c "channel"
    payload := ← string? c "payload"
    start := ← flag? c "start"
    correlation := ← strings? c "correlation" }

def producerPage? (c : Json) : Option ProducerPage := do
  return {
    processId := ← string? c "process_id"
    members := ← members? false c
    trigger := ← string? c "trigger"
    channel := ← string? c "channel"
    payload := ← string? c "payload" }

/-- The page of a template with a context, when the context has all that is looked at. -/
def page? (c : Json) : Template → Option Page
  | .model => .model <$> modelPage? c
  | .entry => .entry <$> entryPage? c
  | .runningInstance => .runningInstance <$> instancePage? c
  | .rest => .rest <$> restPage? c
  | .consumer => .consumer <$> consumerPage? c
  | .producer => .producer <$> producerPage? c
  | .members => .members <$> members? false c

/-- Render the template of a name with a context. -/
def render (name : String) (c : Json) : Except TemplateError String :=
  match Keyword.parse? name with
  | none => .error (.notFound name)
  | some template =>
      match page? c template with
      | none => .error (.invalid name "the context lacks a value that the template uses")
      | some page => .ok page.text

end Flowsmith.Context

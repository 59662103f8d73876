import Flowsmith.Page.Members

/-!
The pages of a process: its entry point, and the wrapper of a running instance.
-/

namespace Flowsmith

open Source

/-- A handler function under its name. -/
structure PageHandler where
  key : String
  body : String
deriving DecidableEq, Repr

/-- The page of the entry point of a process. -/
structure EntryPage where
  processId : String
  members : Members
  version : String
  instancePath : String
  startable : Bool
  dynamic : Bool
  /-- The expression that builds the runtime definition. -/
  definition : String
  handlers : List PageHandler
deriving DecidableEq, Repr

namespace EntryPage

/-- A truth value in a source. -/
def truth (b : Bool) : String := if b then "true" else "false"

/-- The accessor of a process that is called. -/
def accessorLines (f : PageField) : List Line :=
  List.flatten [
    [.blank, "/// Handle on a called process."],
    Line.braced s!"pub fn {f.name}(&self) -> &{f.type}" [s!"&self.{f.name}"]]

/-- What the type has of its own. -/
def inherentLines (p : EntryPage) : List Line :=
  Line.braced s!"impl {p.members.className}" (List.flatten [
    [ "/// Process ID.",
      s!"pub const ID: &'static str = {Text.quoted p.processId};",
      "/// Process version.",
      s!"pub const VERSION: &'static str = {Text.quoted p.version};",
      "/// Can be started without a message or signal.",
      s!"pub const STARTABLE: bool = {truth p.startable};",
      "/// Graph may change at runtime.",
      s!"pub const DYNAMIC: bool = {truth p.dynamic};",
      .blank,
      "/// Runtime definition of the process graph." ],
    Line.braced "pub fn build_definition() -> procflow_runtime::definition::ProcessDefinition"
      [p.definition],
    (p.members.fields.filter PageField.isSubProcess).flatMap accessorLines])

/-- What the type has as a process. -/
def processLines (p : EntryPage) : List Line :=
  Line.braced s!"impl procflow_runtime::Process for {p.members.className}" (List.flatten [
    [s!"type Instance = {p.instancePath};", .blank],
    Line.braced "fn id(&self) -> &'static str" ["Self::ID"],
    [.blank],
    Line.braced "fn definition(&self) -> procflow_runtime::definition::ProcessDefinition"
      ["Self::build_definition()"],
    [.blank],
    Line.function "fn create_instance"
      [ "&self,", "id: String,",
        "model: <Self::Instance as procflow_runtime::ProcessInstance>::Model," ]
      "Self::Instance" [s!"{p.instancePath}::new(id, model)"],
    [.blank],
    Line.braced "fn handler(&self, key: &str) -> Option<procflow_runtime::context::Handler>" (
      Line.braced "match key" (List.flatten [
        p.handlers.map fun h => s!"{Text.quoted h.key} => Some(handlers::{h.key}),",
        ["_ => None,"]]))])

/-- The lines of the page. -/
def lines (p : EntryPage) : List Line :=
  List.flatten [
    [generatedFrom p.processId, s!"//! Entry point of process `{p.processId}`.", .blank],
    p.members.lines,
    [.blank],
    p.inherentLines,
    [.blank],
    p.processLines,
    [.blank, "/// Node handlers."],
    Line.braced "pub mod handlers" (p.handlers.map fun h => h.body)]

end EntryPage

/-- The page of the wrapper of a running instance. -/
structure InstancePage where
  processId : String
  className : String
  modelPath : String
deriving DecidableEq, Repr

namespace InstancePage

/-- The state of an instance. -/
def stateType : String := "procflow_runtime::instance::InstanceState"

/-- What the wrapper has of its own. -/
def inherentLines (p : InstancePage) : List Line :=
  List.flatten [
    ["/// Create a pending instance."],
    Line.braced s!"pub fn new(id: impl Into<String>, model: {p.modelPath}) -> Self" (
      Line.braced "Self" ["id: id.into(),", "model,", s!"state: {stateType}::Pending,"]),
    [.blank, "/// Instance ID."],
    Line.braced "pub fn id(&self) -> &str" ["&self.id"],
    [.blank, "/// Current variables."],
    Line.braced s!"pub fn model(&self) -> &{p.modelPath}" ["&self.model"],
    [.blank, "/// Current state."],
    Line.braced s!"pub fn state(&self) -> {stateType}" ["self.state"]]

/-- What the wrapper has as an instance. -/
def instanceLines (p : InstancePage) : List Line :=
  List.flatten [
    [s!"type Model = {p.modelPath};", .blank],
    Line.braced "fn process_id(&self) -> &'static str" [Text.quoted p.processId],
    [.blank],
    Line.braced "fn id(&self) -> &str" ["&self.id"],
    [.blank],
    Line.braced "fn variables(&self) -> &Self::Model" ["&self.model"],
    [.blank],
    Line.braced "fn variables_mut(&mut self) -> &mut Self::Model" ["&mut self.model"],
    [.blank],
    Line.braced s!"fn transition(&mut self, state: {stateType})" ["self.state = state;"]]

/-- The lines of the page. -/
def lines (p : InstancePage) : List Line :=
  List.flatten [
    [ generatedFrom p.processId,
      s!"//! Running instance of process `{p.processId}`.",
      .blank,
      s!"/// One running instance of process `{p.processId}`.",
      "#[derive(Debug)]" ],
    Line.braced s!"pub struct {p.className}"
      ["id: String,", s!"model: {p.modelPath},", s!"state: {stateType},"],
    [.blank],
    Line.braced s!"impl {p.className}" p.inherentLines,
    [.blank],
    Line.braced s!"impl procflow_runtime::ProcessInstance for {p.className}" p.instanceLines]

end InstancePage

end Flowsmith

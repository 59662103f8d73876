import Flowsmith.Page.Members

/-!
The page of a REST resource.
-/

namespace Flowsmith

open Source

/-- An endpoint that raises a signal. -/
structure SignalEndpoint where
  name : String
  method : String
  payload : String
deriving DecidableEq, Repr

/-- The page of a REST resource. -/
structure RestPage where
  processId : String
  members : Members
  route : String
  /-- The type of what starts a process; used only when it can be started. -/
  inputModelPath : String
  outputModelPath : String
  reactive : Bool
  transactional : Bool
  startable : Bool
  startSignals : List SignalEndpoint
  instanceSignals : List SignalEndpoint
deriving DecidableEq, Repr

namespace RestPage

/-- What awaits the result of a call. -/
def awaiting (p : RestPage) : String := if p.reactive then ".await" else ""

/-- The head of a handler. -/
def handler (p : RestPage) (name : String) : String :=
  "pub " ++ (if p.reactive then "async " else "") ++ "fn " ++ name

/-- The attribute of handlers that change something. -/
def transaction (p : RestPage) : List Line :=
  if p.transactional then ["#[procflow_runtime::transactional]"] else []

/-- The attribute that binds a handler to a route. -/
def routed (verb path : String) : Line :=
  s!"#[rest::{verb}({Text.quoted path})]"

/-- The end of a handler that starts an instance. -/
def createdLine : Line := "Ok(rest::Created::new(instance.id(), instance.output()))"

/-- The result of a handler that starts an instance. -/
def createdType (p : RestPage) : String :=
  s!"procflow_runtime::Result<rest::Created<{p.outputModelPath}>>"

/-- The handler that starts an instance. -/
def createLines (p : RestPage) : List Line :=
  List.flatten [
    [.blank, "/// Start a new instance."],
    p.transaction,
    [routed "post" p.route],
    Line.function (p.handler "create") ["&self,", s!"body: Option<{p.inputModelPath}>,"]
      p.createdType
      [s!"let instance = self.process.start(body.unwrap_or_default()){p.awaiting}?;", createdLine]]

/-- The route of one instance. -/
def instanceRoute (p : RestPage) : String := p.route ++ "/\x7bid\x7d"

/-- The handlers that every resource has. -/
def instanceLines (p : RestPage) : List Line :=
  List.flatten [
    [.blank, "/// List running instances.", routed "get" p.route],
    Line.braced
      (p.handler s!"list(&self) -> procflow_runtime::Result<Vec<{p.outputModelPath}>>")
      [s!"self.application.instances(self.process.as_ref()).list(){p.awaiting}"],
    [.blank, "/// Get one instance.", routed "get" p.instanceRoute],
    Line.braced
      (p.handler s!"get(&self, id: String) -> procflow_runtime::Result<{p.outputModelPath}>")
      [s!"self.application.instances(self.process.as_ref()).output(&id){p.awaiting}"],
    [.blank, "/// Abort one instance."],
    p.transaction,
    [routed "delete" p.instanceRoute],
    Line.braced
      (p.handler s!"abort(&self, id: String) -> procflow_runtime::Result<{p.outputModelPath}>")
      [s!"self.application.instances(self.process.as_ref()).abort(&id){p.awaiting}"]]

/-- The handler that starts an instance with a signal. -/
def startSignalLines (p : RestPage) (e : SignalEndpoint) : List Line :=
  List.flatten [
    [.blank, s!"/// Start a new instance with signal `{e.name}`."],
    p.transaction,
    [routed "post" (p.route ++ "/" ++ e.name)],
    Line.function (p.handler ("start_" ++ e.method)) ["&self,", s!"payload: Option<{e.payload}>,"]
      p.createdType (List.flatten [
      ["let instance = self"],
      Line.indent [".process",
        s!".start_with_signal({Text.quoted e.name}, payload){p.awaiting}?;"],
      [createdLine]])]

/-- The handler that raises a signal in an instance. -/
def instanceSignalLines (p : RestPage) (e : SignalEndpoint) : List Line :=
  List.flatten [
    [.blank, s!"/// Deliver signal `{e.name}` to one instance."],
    p.transaction,
    [routed "post" (p.instanceRoute ++ "/" ++ e.name)],
    Line.function (p.handler ("signal_" ++ e.method))
      ["&self,", "id: String,", s!"payload: Option<{e.payload}>,"]
      s!"procflow_runtime::Result<{p.outputModelPath}>" (List.flatten [
      ["self.application"],
      Line.indent [".instances(self.process.as_ref())",
        s!".signal(&id, {Text.quoted e.name}, payload){p.awaiting}"]])]

/-- The lines of the page. -/
def lines (p : RestPage) : List Line :=
  List.flatten [
    [ generatedFrom p.processId,
      s!"//! REST resource of process `{p.processId}`.",
      .blank,
      "use procflow_runtime::rest;",
      .blank ],
    p.members.lines,
    [.blank],
    Line.braced s!"impl {p.members.className}" (List.flatten [
      [ "/// Base path of every endpoint.",
        s!"pub const BASE_PATH: &'static str = {Text.quoted p.route};" ],
      if p.startable then p.createLines else [],
      p.instanceLines,
      p.startSignals.flatMap p.startSignalLines,
      p.instanceSignals.flatMap p.instanceSignalLines])]

end RestPage

end Flowsmith

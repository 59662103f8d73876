import Flowsmith.Page.Members

/-!
The pages of message consumers and producers.
-/

namespace Flowsmith

open Source

/-- The page of the consumer of the messages of a trigger. -/
structure ConsumerPage where
  processId : String
  members : Members
  trigger : String
  channel : String
  payload : String
  /-- Whether a message starts a process. -/
  start : Bool
  correlation : List String
deriving DecidableEq, Repr

namespace ConsumerPage

/-- What is done with a message: it starts a process, or goes to the one that it is matched to. -/
def deliveryLines (start : Bool) : List Line :=
  "self.application" :: Line.indent (
    ".instances(self.process.as_ref())" ::
      if start then
        [".start_with_message(Self::TRIGGER, message)", ".map(|_| ())"]
      else
        [".deliver_correlated(Self::TRIGGER, Self::CORRELATION, message)"])

/-- The lines of the page. -/
def lines (p : ConsumerPage) : List Line :=
  let keys := String.join (p.correlation.map fun k => Text.quoted k ++ ", ")
  List.flatten [
    [ generatedFrom p.processId,
      s!"//! Consumer of `{p.trigger}` messages for process `{p.processId}`.",
      .blank,
      "use procflow_runtime::messaging::\x7bConsumer, Message\x7d;",
      .blank ],
    p.members.lines,
    [.blank],
    Line.braced s!"impl {p.members.className}" [
      "/// Trigger handled by this consumer.",
      s!"pub const TRIGGER: &'static str = {Text.quoted p.trigger};",
      "/// Channel read from.",
      s!"pub const CHANNEL: &'static str = {Text.quoted p.channel};",
      "/// Correlation keys.",
      s!"pub const CORRELATION: &'static [&'static str] = &[{keys}];"],
    [.blank],
    Line.braced s!"impl Consumer for {p.members.className}" (List.flatten [
      [s!"type Payload = {p.payload};", .blank],
      Line.braced "fn channel(&self) -> &'static str" ["Self::CHANNEL"],
      [.blank],
      Line.braced
        "fn consume(&self, message: Message<Self::Payload>) -> procflow_runtime::Result<()>"
        (deliveryLines p.start)])]

end ConsumerPage

/-- The page of the producer of the messages of a trigger. -/
structure ProducerPage where
  processId : String
  members : Members
  trigger : String
  channel : String
  payload : String
deriving DecidableEq, Repr

namespace ProducerPage

/-- The lines of the page. -/
def lines (p : ProducerPage) : List Line :=
  List.flatten [
    [ generatedFrom p.processId,
      s!"//! Producer of `{p.trigger}` messages for process `{p.processId}`.",
      .blank,
      "use procflow_runtime::messaging::\x7bMessage, Producer\x7d;",
      .blank ],
    p.members.lines,
    [.blank],
    Line.braced s!"impl {p.members.className}" [
      "/// Trigger served by this producer.",
      s!"pub const TRIGGER: &'static str = {Text.quoted p.trigger};",
      "/// Channel written to.",
      s!"pub const CHANNEL: &'static str = {Text.quoted p.channel};"],
    [.blank],
    Line.braced s!"impl Producer for {p.members.className}" (List.flatten [
      [s!"type Payload = {p.payload};", .blank],
      Line.braced "fn channel(&self) -> &'static str" ["Self::CHANNEL"],
      [.blank],
      Line.braced
      "fn produce(&self, instance_id: &str, payload: Self::Payload) -> procflow_runtime::Result<()>"
        ("self.emitter" ::
          Line.indent [".send(Message::new(instance_id, Self::TRIGGER, payload))"])])]

end ProducerPage

end Flowsmith

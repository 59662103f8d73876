import Flowsmith.Page.Entry
import Flowsmith.Page.Message
import Flowsmith.Page.Model
import Flowsmith.Page.Rest

/-!
Pages of generated source. Each page follows a template, which it can be asked for by name.
-/

namespace Flowsmith

/-- The templates. -/
inductive Template where
  | model
  | entry
  | runningInstance
  | rest
  | consumer
  | producer
  | members
deriving DecidableEq, Repr

instance : Keyword Template where
  all := [.model, .entry, .runningInstance, .rest, .consumer, .producer, .members]
  text
    | .model => "model.rs"
    | .entry => "process.rs"
    | .runningInstance => "instance.rs"
    | .rest => "resource.rs"
    | .consumer => "consumer.rs"
    | .producer => "producer.rs"
    | .members => "members.rs"

/-- Why a page could not be rendered. -/
inductive TemplateError where
  | notFound (template : String)
  | invalid (template message : String)
deriving DecidableEq, Repr

/-- The wording of an error. -/
def TemplateError.message : TemplateError → String
  | .notFound template => s!"template '{template}' is not registered"
  | .invalid template message => s!"invalid template '{template}': {message}"

/-- A page: a template with all that it asks for. -/
inductive Page where
  | model (page : ModelPage)
  | entry (page : EntryPage)
  | runningInstance (page : InstancePage)
  | rest (page : RestPage)
  | consumer (page : ConsumerPage)
  | producer (page : ProducerPage)
  | members (page : Members)
deriving DecidableEq, Repr

namespace Page

/-- The template that a page follows. -/
def template : Page → Template
  | .model _ => .model
  | .entry _ => .entry
  | .runningInstance _ => .runningInstance
  | .rest _ => .rest
  | .consumer _ => .consumer
  | .producer _ => .producer
  | .members _ => .members

/-- The lines of a page. -/
def lines : Page → List Source.Line
  | .model p => p.lines
  | .entry p => p.lines
  | .runningInstance p => p.lines
  | .rest p => p.lines
  | .consumer p => p.lines
  | .producer p => p.lines
  | .members p => p.lines

/-- The text of a page. -/
def text (p : Page) : String :=
  Source.Line.renderAll p.lines

end Page

/-- A way to render pages. -/
abbrev Engine := Page → Except TemplateError String

/-- Render pages as they are. -/
def Engine.builtin : Engine :=
  fun p => .ok p.text

end Flowsmith

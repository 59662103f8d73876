import Flowsmith.DataModel
import Flowsmith.Page.Members

/-!
The page of a data model.
-/

namespace Flowsmith

open Source

/-- A field of the model. -/
structure ModelPageField where
  name : String
  ident : String
  type : String
  required : Bool
  readonly : Bool
deriving DecidableEq, Repr

/-- The page of a data model. -/
structure ModelPage where
  processId : String
  kind : ModelKind
  className : String
  openapi : Bool
  validation : Bool
  fields : List ModelPageField
deriving DecidableEq, Repr

namespace ModelPage

/-- The page of a model. -/
def ofModel (processId : String) (m : DataModel) : ModelPage :=
  { processId
    kind := m.kind
    className := m.className
    openapi := m.openapi
    validation := m.validation
    fields := m.fields.map fun f =>
      { name := f.name
        ident := f.ident
        type := f.sourceType
        required := f.required
        readonly := f.readonly } }

/-- The kind at the beginning of a sentence. -/
def title : ModelKind → String
  | .input => "Input"
  | .output => "Output"
  | .full => "Full"

/-- The declaration of a field. -/
def fieldLines (validation : Bool) (f : ModelPageField) : List Line :=
  List.flatten [
    [Line.text 0 (s!"#[serde(rename = {Text.quoted f.name}, " ++
      "default, skip_serializing_if = \"Option::is_none\")]")],
    if validation && f.required then ["#[validate(required)]"] else [],
    [s!"pub {f.ident}: Option<{f.type}>,"]]

/-- The constant that lists variables which cannot change; only the full model has it. -/
def readonlyLines (p : ModelPage) : List Line :=
  let names := (p.fields.filter ModelPageField.readonly).map fun f => Text.quoted f.name ++ ", "
  [.blank, "/// Names of variables that cannot change after start.",
    Line.text 0 ("pub const READONLY: &'static [&'static str] = &[" ++ String.join names ++ "];")]

/-- The lines of the page. -/
def lines (p : ModelPage) : List Line :=
  let derives := "#[derive(Debug, Clone, Default, PartialEq, Serialize, Deserialize" ++
    (if p.openapi then ", utoipa::ToSchema" else "") ++
    (if p.validation then ", validator::Validate" else "") ++ ")]"
  List.flatten [
    [ generatedFrom p.processId,
      s!"//! {title p.kind} model of process `{p.processId}`.",
      .blank,
      "use serde::\x7bDeserialize, Serialize\x7d;",
      .blank,
      s!"/// {title p.kind} variables of process `{p.processId}`.",
      derives ],
    Line.braced s!"pub struct {p.className}" (p.fields.flatMap (fieldLines p.validation)),
    [.blank],
    Line.braced s!"impl {p.className}" (List.flatten [
      [ "/// Process this model belongs to.",
        s!"pub const PROCESS_ID: &'static str = {Text.quoted p.processId};" ],
      if p.kind = .full then p.readonlyLines else []])]

end ModelPage

end Flowsmith

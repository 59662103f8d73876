import Flowsmith.Host
import Flowsmith.Source.Line

/-!
Types that hold collaborators: the type itself and, unless its fields are handed in, a constructor.
-/

namespace Flowsmith

open Source

/-- A field of such a type. -/
structure PageField where
  name : String
  type : String
  attributes : List String
  /-- The initializer; it is written only for fields that are not handed in, and without one `None`
      is. -/
  init : Option String
  /-- Whether the field holds a process that is called. -/
  isSubProcess : Bool
deriving DecidableEq, Repr

/-- A field as a page writes it. -/
def AnnotatedField.toPageField (f : AnnotatedField) : PageField :=
  { name := f.name
    type := f.type
    attributes := f.attributes
    init := f.init
    isSubProcess := f.role == .subProcess }

/-- A type that holds collaborators. -/
structure Members where
  doc : String
  className : String
  typeAttributes : List String
  fields : List PageField
  /-- Whether the fields are handed in. -/
  injected : Bool
deriving DecidableEq, Repr

namespace Members

/-- The type with the given fields, under a way of injection. -/
def ofFields (injection : Injection) (doc className : String) (fields : List HostField) : Members :=
  { doc
    className
    typeAttributes := injection.typeAttributes
    fields := fields.map fun f => (injection.annotate f).toPageField
    injected := injection.injects }

/-- The declaration of a field. -/
def fieldLines (f : PageField) : List Line :=
  f.attributes.map (Line.text 0) ++ [Line.text 0 s!"{f.name}: {f.type},"]

/-- The constructor. -/
def constructorLines (m : Members) : List Line :=
  Line.braced s!"impl {m.className}" (List.flatten [
    ["/// Create with explicitly initialized collaborators."],
    Line.braced "pub fn new() -> Self" (
      Line.braced "Self" (m.fields.map fun f =>
        let init := f.init.getD "None"
        Line.text 0 s!"{f.name}: {init},"))])

/-- The lines of the type and its constructor. -/
def lines (m : Members) : List Line :=
  List.flatten [
    [s!"/// {m.doc}"],
    m.typeAttributes.map (Line.text 0),
    Line.braced s!"pub struct {m.className}" (m.fields.flatMap fieldLines),
    if m.injected then [] else .blank :: m.constructorLines]

end Members

/-- The first line of every generated source. -/
def generatedFrom (processId : String) : Line :=
  s!"// Generated by procflow-compile from process {Text.quoted processId}. Do not edit."

end Flowsmith

import Flowsmith.Definition.Basic
import Flowsmith.Naming
import Flowsmith.Text.Blank

/-!
Data models: what a process takes in, what it gives back, and all of its variables, as types with
fields. Models are kept for each process id until its variables change.
-/

namespace Flowsmith

/-- Why variables make up no model. -/
inductive ModelError where
  | emptyVariableName (index : Nat)
  | duplicateVariable (name : String)
  | fieldCollision (first second field : String)
  | conflictingTags (name tags : String)
deriving DecidableEq, Repr

/-- The wording of an error. -/
def ModelError.message : ModelError → String
  | .emptyVariableName index => s!"variable #{index} has an empty name"
  | .duplicateVariable name => s!"variable '{name}' is declared more than once"
  | .fieldCollision first second field =>
      s!"variables '{first}' and '{second}' both map to field '{field}'"
  | .conflictingTags name tags => s!"variable '{name}' has conflicting tags: {tags}"

/-- What a model holds: what starts a process, what it ends with, or everything. -/
inductive ModelKind where
  | input
  | output
  | full
deriving DecidableEq, Repr

instance : Keyword ModelKind where
  all := [.input, .output, .full]
  text
    | .input => "input"
    | .output => "output"
    | .full => "full"

namespace ModelKind

/-- The type of a model. -/
def className (names : Names) : ModelKind → String
  | .input => names.inputModelClass
  | .output => names.outputModelClass
  | .full => names.modelClass

/-- Whether a variable belongs to a model. -/
def includes (v : Variable) : ModelKind → Bool
  | .input => !v.hasTag .internal && !v.hasTag .output
  | .output => !v.hasTag .internal && !v.hasTag .input
  | .full => true

end ModelKind

/-- A field of a model. -/
structure ModelField where
  /-- The name of the variable, and of the field when written out. -/
  name : String
  /-- The name of the field in generated sources. -/
  ident : String
  dataType : DataType
  sourceType : String
  required : Bool
  readonly : Bool
deriving DecidableEq, Repr

/-- A model of a process. -/
structure DataModel where
  kind : ModelKind
  className : String
  fields : List ModelField
  /-- Whether the fields carry validation attributes. -/
  validation : Bool
  /-- Whether the model derives a schema. -/
  openapi : Bool
deriving DecidableEq, Repr

/-- The three models of a process. -/
structure DataModels where
  input : DataModel
  output : DataModel
  full : DataModel
deriving DecidableEq, Repr

/-- The models in the order in which they are written. -/
def DataModels.toList (m : DataModels) : List DataModel :=
  [m.full, m.input, m.output]

/-- The variable whose field a name would take. -/
def fieldOwner? (before : List Variable) (field : String) : Option Variable :=
  before.find? (fun v => Naming.field v.name == field)

/-- What is wrong with one variable, given those before it. -/
def variableFault? (index : Nat) (before : List Variable) (v : Variable) : Option ModelError :=
  if Text.blank v.name then some (.emptyVariableName index)
  else if before.any (fun u => u.name == v.name) then some (.duplicateVariable v.name)
  else if v.hasTag .input && v.hasTag .output then
    some (.conflictingTags v.name "input, output")
  else (fieldOwner? before (Naming.field v.name)).map fun first =>
    .fieldCollision first.name v.name (Naming.field v.name)

/-- Check the variables after those in `before`. -/
def checkVariablesFrom (before : List Variable) : List Variable → Except ModelError Unit
  | [] => .ok ()
  | v :: rest =>
      match variableFault? before.length before v with
      | some e => .error e
      | none => checkVariablesFrom (before ++ [v]) rest

/-- Check what all models have in common: variables have names and fields of their own, and are not
    tagged as input and output at once. -/
def checkVariables (declarations : List Variable) : Except ModelError Unit :=
  checkVariablesFrom [] declarations

/-- The capabilities that models are generated with. -/
structure ModelOptions where
  validation : Bool := false
  openapi : Bool := false
deriving DecidableEq, Repr

/-- The field of a variable. -/
def ModelField.ofVariable (v : Variable) : ModelField :=
  { name := v.name
    ident := Naming.field v.name
    dataType := v.dataType
    sourceType := v.dataType.sourceType
    required := v.hasTag .required
    readonly := v.hasTag .readonly }

/-- One model of a process. -/
def DataModel.derive (options : ModelOptions) (d : Definition) (kind : ModelKind) :
    Except ModelError DataModel := do
  checkVariables d.declarations
  return {
    kind
    className := kind.className (Names.ofId d.id d.package)
    fields := (d.declarations.filter kind.includes).map ModelField.ofVariable
    validation := options.validation
    openapi := options.openapi }

/-- The three models of a process. -/
def DataModels.derive (options : ModelOptions) (d : Definition) : Except ModelError DataModels := do
  let input ← DataModel.derive options d .input
  let output ← DataModel.derive options d .output
  let full ← DataModel.derive options d .full
  return { input, output, full }

/-- Models that were derived, with the variables they were derived from and their number in the
    order of derivation. -/
structure StoredModels where
  declarations : List Variable
  models : DataModels
  serial : Nat

/-- Models by process id. -/
structure ModelStore where
  options : ModelOptions := {}
  stored : Dict StoredModels := .empty
  /-- How many models were derived. -/
  derived : Nat := 0

namespace ModelStore

/-- The stored models of a process id. -/
def get? (s : ModelStore) (processId : String) : Option StoredModels :=
  s.stored.get? processId

/-- The stored models of a process, if its variables are still the same. -/
def current? (s : ModelStore) (d : Definition) : Option StoredModels :=
  (s.get? d.id).filter fun m => m.declarations == d.declarations

/-- The models of a process: the stored ones while its variables stay, else new ones. -/
def generate (s : ModelStore) (d : Definition) : Except ModelError StoredModels × ModelStore :=
  match s.current? d with
  | some m => (.ok m, s)
  | none =>
      match DataModels.derive s.options d with
      | .error e => (.error e, s)
      | .ok models =>
          let m : StoredModels := ⟨d.declarations, models, s.derived⟩
          (.ok m, { s with stored := s.stored.insert d.id m, derived := s.derived + 1 })

end ModelStore

end Flowsmith

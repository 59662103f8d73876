import Flowsmith.Report
import Flowsmith.Resource
import Flowsmith.Validation.Check

/-!
Collecting a batch: definitions that are given, then those of the resources that can be read. No two
may share an id. Those that are not well-formed are left out.
-/

namespace Flowsmith

/-- A definition of a batch, and where it comes from. -/
structure Collected where
  definition : Definition
  /-- The resource, or a label when there is none. -/
  origin : String
  /-- The contents of the resource that the definition was read from. -/
  contents : Option (List UInt8)

/-- Two definitions that share an id. -/
structure DuplicateId where
  id : String
  /-- The origin of the definition that came first. -/
  first : String
  second : String
deriving DecidableEq, Repr

/-- The wording of a shared id. -/
def DuplicateId.message (d : DuplicateId) : String :=
  s!"Duplicate process id '{d.id}': defined in {d.first} and {d.second}"

namespace Collected

/-- A definition that is given, at its place among those that are. -/
def ofGiven (index : Nat) (d : Definition) : Collected :=
  { definition := d, origin := d.resource.getD s!"<process #{index}>", contents := none }

/-- The definitions of a resource. -/
def ofResource (r : Resource) (ds : List Definition) : List Collected :=
  ds.map fun d => { definition := d, origin := r.path, contents := some r.contents }

/-- The placeholder, which stands in for an empty batch. -/
def placeholder : Collected :=
  { definition := .placeholder, origin := "<placeholder>", contents := none }

/-- The id of the definition. -/
def id (c : Collected) : String := c.definition.id

/-- The first definition whose id was there before. -/
def duplicateAfter? (before : List Collected) : List Collected → Option DuplicateId
  | [] => none
  | c :: rest =>
      match before.find? (fun b => b.id == c.id) with
      | some first => some ⟨c.id, first.origin, c.origin⟩
      | none => duplicateAfter? (before ++ [c]) rest

/-- The first definition of a list whose id was there before. -/
def duplicate? (cs : List Collected) : Option DuplicateId :=
  duplicateAfter? [] cs

end Collected

/-- The definitions that were found, and the resources that could not be read. -/
structure Gathered where
  definitions : List Collected
  errors : Report

namespace Gathered

/-- What is read from a resource. -/
def ofResource (parsers : List ResourceParser) (r : Resource) : Gathered :=
  match ResourceParser.read parsers r with
  | .ok ds => { definitions := Collected.ofResource r ds, errors := [] }
  | .error e =>
      { definitions := []
        errors := [{ resource := some r.path, failure := .collect e.message }] }

/-- What is given, and what is read from resources. -/
def ofInput (parsers : List ResourceParser) (given : List Definition) (resources : List Resource) :
    Gathered :=
  let read := resources.map (ofResource parsers)
  { definitions := given.mapIdx Collected.ofGiven ++ read.flatMap Gathered.definitions
    errors := read.flatMap Gathered.errors }

end Gathered

/-- A batch of well-formed definitions, and what was found while they were collected. -/
structure Batch where
  members : List Collected
  errors : Report
  warnings : List (String × ValidationWarning)

namespace Batch

/-- The failure of a definition that is not well-formed. -/
def validationError? (checked : Collected × Validation) : Option ErrorRecord :=
  if checked.2.isOk then none
  else some (.ofDefinition checked.1.definition (.collect checked.2.errorSummary))

/-- The warnings about a definition, each with its id. -/
def warningsOf (checked : Collected × Validation) : List (String × ValidationWarning) :=
  checked.2.warnings.map fun w => (checked.1.id, w)

/-- Leave out what is not well-formed; an empty batch may be filled with the placeholder. -/
def ofGathered (usePlaceholder : Bool) (g : Gathered) : Batch :=
  let checked := g.definitions.map fun c => (c, c.definition.validate)
  let accepted := (checked.filter (fun x => x.2.isOk)).map Prod.fst
  { members := if accepted.isEmpty && usePlaceholder then [.placeholder] else accepted
    errors := g.errors ++ checked.filterMap validationError?
    warnings := checked.flatMap warningsOf }

/-- Collect a batch, unless two definitions share an id. -/
def collect (parsers : List ResourceParser) (usePlaceholder : Bool) (given : List Definition)
    (resources : List Resource) : Except DuplicateId Batch :=
  let gathered := Gathered.ofInput parsers given resources
  match Collected.duplicate? gathered.definitions with
  | some d => .error d
  | none => .ok (ofGathered usePlaceholder gathered)

end Batch

end Flowsmith

import Flowsmith.Definition.Read
import Flowsmith.Json.Parse
import Flowsmith.Path

/-!
Definition resources, and the parsers that read definitions from them.
-/

namespace Flowsmith

/-- A file that holds process definitions. -/
structure Resource where
  path : String
  contents : List UInt8
deriving DecidableEq, Repr

/-- Why a resource cannot be read. -/
inductive ParseError where
  /-- No parser takes the resource. -/
  | unsupported (path : String)
  /-- The resource is not text. -/
  | encoding (fault : Text.Utf8Fault)
  /-- The resource is not well-formed. -/
  | malformed (fault : Json.Fault)
  /-- The resource does not describe processes. -/
  | invalid (fault : ReadFault)
deriving DecidableEq, Repr

/-- The wording of an error. -/
def ParseError.message : ParseError → String
  | .unsupported path => s!"no parser accepts resource '{path}'"
  | .encoding fault => "resource is not valid UTF-8: " ++ fault.message
  | .malformed fault => "malformed definition: " ++ fault.message
  | .invalid fault => "invalid process definition: " ++ fault.message

/-- A parser of resources: which paths it takes, and what it reads from them. -/
structure ResourceParser where
  accepts : String → Bool
  parse : Resource → Except ParseError (List Definition)

namespace Resource

/-- Whether a path has the extension of JSON, in letters of either case. -/
def hasJsonExtension (path : String) : Bool :=
  (Path.extension? ⟨path⟩).any fun e => e.toList.map Char.toLower == ['j', 's', 'o', 'n']

/-- The definitions of a JSON resource; each keeps the path that it came from. -/
def parseJson (r : Resource) : Except ParseError (List Definition) :=
  match Text.decodeUtf8 r.contents with
  | .error fault => .error (.encoding fault)
  | .ok text =>
      match Json.parse text with
      | .error fault => .error (.malformed fault)
      | .ok v =>
          match Definition.readAll v with
          | .error fault => .error (.invalid fault)
          | .ok ds => .ok (ds.map fun d => { d with resource := some r.path })

end Resource

namespace ResourceParser

/-- The parser of JSON resources. -/
def json : ResourceParser :=
  { accepts := Resource.hasJsonExtension, parse := Resource.parseJson }

/-- Read a resource with the first parser that takes it. -/
def read (parsers : List ResourceParser) (r : Resource) : Except ParseError (List Definition) :=
  match parsers.find? (fun p => p.accepts r.path) with
  | some p => p.parse r
  | none => .error (.unsupported r.path)

end ResourceParser

end Flowsmith

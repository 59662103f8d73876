import Flowsmith.Artifact
import Flowsmith.Json.Writer
import Flowsmith.Naming
import Flowsmith.Trigger

/-!
The index: which processes were generated, on which channels their messages travel, and what was
found on the way. Beside it stand copies of the definitions.
-/

namespace Flowsmith

/-- The version of the process model. -/
def modelVersion : String := "1.0.0"

/-- The channel of a message trigger. -/
structure ChannelEntry where
  trigger : String
  kind : TriggerKind
  channel : Option String
  resolution : Resolution
deriving DecidableEq, Repr

/-- A process of the index. -/
structure IndexEntry where
  id : String
  package : String
  /-- The type that the process is entered by. -/
  className : String
  /-- The source of that type. -/
  path : String
  channels : List ChannelEntry
deriving DecidableEq, Repr

namespace ChannelEntry

def ofTrigger (t : Trigger) : ChannelEntry :=
  { trigger := t.name, kind := t.kind, channel := t.channel, resolution := t.resolution }

def toJson (e : ChannelEntry) : Json :=
  .object [
    ("trigger", .string e.trigger),
    ("kind", .string (Keyword.text e.kind)),
    ("channel", Json.stringOrNull e.channel),
    ("resolution", .string (Keyword.text e.resolution))]

end ChannelEntry

namespace IndexEntry

/-- The entry of a process with its settled triggers. -/
def ofTriggers (names : Names) (id package : String) (triggers : List Trigger) : IndexEntry :=
  { id
    package
    className := names.processClass
    path := (names.classPath names.processClass).text
    channels := (triggers.filter (fun t => t.kind.isMessage)).map ChannelEntry.ofTrigger }

def toJson (e : IndexEntry) : Json :=
  .object [
    ("id", .string e.id),
    ("package", .string e.package),
    ("className", .string e.className),
    ("path", .string e.path),
    ("channels", .array (e.channels.map ChannelEntry.toJson))]

end IndexEntry

/-- The index of a batch. -/
structure Index where
  /-- The fingerprint of the sources. -/
  fingerprint : String
  processes : List IndexEntry
  warnings : List String
deriving DecidableEq, Repr

namespace Index

/-- Where the index is written. -/
def path : Path := ⟨"processes.json"⟩

/-- The index as JSON, in the order in which it is written. -/
def toJson (i : Index) : Json :=
  .object [
    ("modelVersion", .string modelVersion),
    ("fingerprint", .string i.fingerprint),
    ("processes", .array (i.processes.map IndexEntry.toJson)),
    ("warnings", Json.strings i.warnings)]

/-- The index as an artifact. -/
def artifact (i : Index) : Artifact :=
  { path, content := .text i.toJson.pretty, category := .internalResource }

end Index

/-- The copy of a definition resource. -/
def resourceCopy (package resource : String) (contents : List UInt8) : Artifact :=
  { path := resourceCopyPath package resource
    content := .binary contents
    category := .internalResource }

end Flowsmith

import Flowsmith.Definition.Basic
import Flowsmith.Digest
import Flowsmith.Path
import Flowsmith.Text.Hex
import Flowsmith.Text.Utf8

/-!
Artifacts, and sets of them. Of several artifacts at one path the first is kept; the others are
noted. A set lists its artifacts in the order of their paths, and has a fingerprint.
-/

namespace Flowsmith

/-- What an artifact is. -/
inductive Category where
  | process
  | processInstance
  | model
  | rest
  | messageConsumer
  | messageProducer
  | producer
  | internalResource
deriving DecidableEq, Repr

instance : Keyword Category where
  all := [.process, .processInstance, .model, .rest, .messageConsumer, .messageProducer, .producer,
    .internalResource]
  text
    | .process => "PROCESS"
    | .processInstance => "PROCESS_INSTANCE"
    | .model => "MODEL"
    | .rest => "REST"
    | .messageConsumer => "MESSAGE_CONSUMER"
    | .messageProducer => "MESSAGE_PRODUCER"
    | .producer => "PRODUCER"
    | .internalResource => "INTERNAL_RESOURCE"

/-- What an artifact holds. -/
inductive Content where
  | text (value : String)
  | binary (bytes : List UInt8)
deriving DecidableEq, Repr

/-- The bytes of a content. -/
def Content.bytes : Content → List UInt8
  | .text value => Text.utf8 value
  | .binary bytes => bytes

/-- A generated file. -/
structure Artifact where
  path : Path
  content : Content
  category : Category
deriving DecidableEq, Repr

/-- A registration that came too late for its path. -/
structure Dropped where
  path : Path
  /-- The category of the artifact that was kept. -/
  kept : Category
  /-- The category of the artifact that was not. -/
  dropped : Category
deriving DecidableEq, Repr

/-- What became of a registration. -/
inductive Registration where
  /-- The artifact was added. -/
  | added
  /-- Another artifact has its path. -/
  | duplicate
deriving DecidableEq, Repr

/-- The wording of a dropped registration. -/
def Dropped.message (d : Dropped) : String :=
  s!"dropped {Keyword.text d.dropped} artifact at {d.path.text}: " ++
    s!"path already generated as {Keyword.text d.kept}"

/-- Artifacts, in the order of their paths, and the registrations that were dropped. -/
structure ArtifactSet where
  artifacts : List Artifact := []
  dropped : List Dropped := []
deriving DecidableEq, Repr

namespace ArtifactSet

/-- The artifact at a path. -/
def get? (s : ArtifactSet) (path : Path) : Option Artifact :=
  s.artifacts.find? (fun a => a.path.same path)

/-- Whether a path is taken. -/
def contains (s : ArtifactSet) (path : Path) : Bool :=
  (s.get? path).isSome

/-- Put an artifact at its place in the order of paths. -/
def insertByPath (a : Artifact) : List Artifact → List Artifact
  | [] => [a]
  | b :: rest =>
      if a.path.compare b.path = .lt then a :: b :: rest else b :: insertByPath a rest

/-- Register an artifact, unless its path is taken, and tell what became of it. -/
def enter (s : ArtifactSet) (a : Artifact) : Registration × ArtifactSet :=
  match s.get? a.path with
  | some existing =>
      (.duplicate, { s with dropped := s.dropped ++ [⟨a.path, existing.category, a.category⟩] })
  | none => (.added, { s with artifacts := insertByPath a s.artifacts })

/-- Register an artifact, unless its path is taken. -/
def register (s : ArtifactSet) (a : Artifact) : ArtifactSet :=
  (s.enter a).2

/-- Register artifacts one after the other. -/
def registerAll (s : ArtifactSet) (as : List Artifact) : ArtifactSet :=
  as.foldl register s

/-- The artifacts of a category, in the order of their paths. -/
def byCategory (s : ArtifactSet) (category : Category) : List Artifact :=
  s.artifacts.filter (fun a => a.category == category)

/-- What the fingerprint is taken of: the path and the content of each artifact, each ended by a
    zero. -/
def fingerprintBytes (s : ArtifactSet) : List UInt8 :=
  s.artifacts.flatMap fun a => Text.utf8 a.path.text ++ 0 :: a.content.bytes ++ [0]

/-- The digest of all paths and contents. -/
def fingerprint (s : ArtifactSet) : String :=
  Text.hexOfBytes (Digest.sha256 s.fingerprintBytes)

end ArtifactSet

end Flowsmith

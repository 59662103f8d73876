import Flowsmith.Artifact
import Flowsmith.Page.Basic
import Flowsmith.Source.Scan

/-!
The container: one source that lists the ids of all processes and makes the entry point of a process
by its id.
-/

namespace Flowsmith

open Source

/-- A process of the container. -/
structure ContainerEntry where
  processId : String
  /-- The type that the process is entered by. -/
  type : List Token

namespace ContainerEntry

/-- An entry whose type is given as text. -/
def ofText (processId type : String) : Except TemplateError ContainerEntry :=
  match scan type with
  | some tokens => .ok ⟨processId, tokens⟩
  | none => .error (.invalid "processes.rs"
      s!"invalid path '{type}': cannot parse string into token stream")

/-- What makes the entry point: the container, or a constructor. -/
def constructor (injected : Bool) (e : ContainerEntry) : List Token :=
  if injected then
    path ["procflow_runtime", "container", "resolve"] ++ marks ':' ':' ++ [mark '<'] ++ e.type ++
      [mark '>', arguments []]
  else e.type ++ marks ':' ':' ++ [.word "new", arguments []]

/-- The branch of a process. -/
def branch (injected : Bool) (e : ContainerEntry) : List Token :=
  [.literal e.processId] ++ marks '=' '>' ++
    [.word "Some",
      arguments [path ["Box", "new"] ++ [arguments [e.constructor injected]]],
      mark ',']

end ContainerEntry

namespace Container

/-- Where the container is written. -/
def path : Path := ⟨"processes.rs"⟩

/-- A documentation comment. -/
def doc (sentence : String) : List Token :=
  [mark '#', .group .square [.word "doc", mark '=', .verbatim ("r\" " ++ sentence ++ "\"")]]

/-- The list of all ids. -/
def idTokens (entries : List ContainerEntry) : List Token :=
  doc "Ids of every generated process." ++ words ["pub", "const", "PROCESS_IDS"] ++
    [mark ':', mark '&', .group .square [mark '&', .word "str"], mark '=', mark '&',
      .group .square (separated [mark ','] (entries.map fun e => [.literal e.processId])),
      mark ';']

/-- The function that makes an entry point by its id. -/
def lookupTokens (injected : Bool) (entries : List ContainerEntry) : List Token :=
  doc "Create the entry point of a process by id." ++ words ["pub", "fn", "create_process"] ++
    [.group .round [.word "id", mark ':', mark '&', .word "str"]] ++ marks '-' '>' ++
    [.word "Option", mark '<', .word "Box", mark '<', .word "dyn"] ++
    Source.path ["procflow_runtime", "AnyProcess"] ++ marks '>' '>' ++
    [.group .curly [.word "match", .word "id",
      .group .curly (entries.flatMap (ContainerEntry.branch injected) ++
        [.word "_"] ++ marks '=' '>' ++ [.word "None", mark ','])]]

/-- The text of the container. -/
def text (injected : Bool) (entries : List ContainerEntry) : String :=
  "// Generated by procflow-compile. Do not edit.\n" ++
    Token.text (idTokens entries ++ lookupTokens injected entries) ++ "\n"

/-- The container as an artifact. -/
def artifact (injected : Bool) (entries : List ContainerEntry) : Artifact :=
  { path, content := .text (text injected entries), category := .producer }

end Container

end Flowsmith

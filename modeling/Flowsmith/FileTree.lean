import Flowsmith.Dict
import Flowsmith.Path
import Flowsmith.Text.Utf8

/-!
Access to files, and trees of files in memory. A place in a tree is the list of names that leads
there from the root. The working directory stands right below the root, under a name that no path
can spell.
-/

namespace Flowsmith

/-- Why files cannot be read or written. -/
inductive FileError where
  | missing
  | notDirectory
  | directory
  | taken
  | nameTooLong
  /-- A path that holds a NUL. -/
  | nul
  /-- What was read is not text. -/
  | notText
  | other (message : String)
deriving DecidableEq, Repr

/-- The wording of an error. -/
def FileError.message : FileError → String
  | .missing => "No such file or directory (os error 2)"
  | .taken => "File exists (os error 17)"
  | .notDirectory => "Not a directory (os error 20)"
  | .directory => "Is a directory (os error 21)"
  | .nameTooLong => "File name too long (os error 36)"
  | .nul => "file name contained an unexpected NUL byte"
  | .notText => "stream did not contain valid UTF-8"
  | .other message => message

/-- The greatest length of a path, in bytes. -/
def Path.limit : Nat := 4095

/-- What is wrong with a path, wherever it may lead: a NUL, or its length. -/
def Path.fault? (p : Path) : Option FileError :=
  if p.text.toList.contains '\x00' then some .nul
  else if Path.limit < p.text.utf8ByteSize then some .nameTooLong
  else none

/-- The operations on files that a command needs. -/
structure FileAccess (m : Type → Type) where
  isDirectory : Path → m Bool
  /-- The names in a directory, in any order. -/
  entries : Path → ExceptT FileError m (List String)
  read : Path → ExceptT FileError m (List UInt8)
  /-- Make a directory, where there is nothing yet. -/
  makeDirectory : Path → ExceptT FileError m Unit
  write : Path → List UInt8 → ExceptT FileError m Unit

namespace FileAccess

variable {m : Type → Type} [Monad m]

/-- Make a directory, unless it is there. -/
def ensureDirectory (files : FileAccess m) (p : Path) : ExceptT FileError m Unit := do
  try
    files.makeDirectory p
  catch e => unless ← files.isDirectory p do throw e

/-- Make the directory that some steps lead to, the last step first. Those above it are made when it
    turns out that one of them is missing. -/
def makeUpward (files : FileAccess m) : List Path.Component → ExceptT FileError m Unit
  | [] => pure ()
  | step :: above => do
      let p := Path.ofComponents (step :: above).reverse
      try
        files.ensureDirectory p
      catch
        | .missing => do
            files.makeUpward above
            files.ensureDirectory p
        | e => throw e

/-- Make a directory, and those above it. The empty path asks for none. -/
def makeDirectories (files : FileAccess m) (p : Path) : ExceptT FileError m Unit := do
  if let some e := p.fault? then throw e
  files.makeUpward p.components.reverse

/-- Write a file, and make its directory. -/
def writeDeep (files : FileAccess m) (p : Path) (contents : List UInt8) :
    ExceptT FileError m Unit := do
  files.makeDirectories p.parent
  files.write p contents

end FileAccess

/-- A tree of files. The root and the working directory are directories, whether they are listed or
    not. -/
structure FileTree where
  directories : List (List String) := []
  files : List (List String × List UInt8) := []
deriving DecidableEq, Repr

namespace FileTree

/-- The place of the working directory. Names in paths are not empty, so it can be left but not
    entered by its name. -/
def working : List String := [""]

/-- The contents of the file at a place. -/
def file? (t : FileTree) (place : List String) : Option (List UInt8) :=
  t.files.lookup place

/-- Whether there is a directory at a place. -/
def hasDirectory (t : FileTree) (place : List String) : Bool :=
  place.isEmpty || place == working || t.directories.contains place

/-- The greatest length of a name, in bytes. -/
def nameLimit : Nat := 255

/-- The place that a step leads to. There is nothing above the root. -/
def step (place : List String) : Path.Component → Except FileError (List String)
  | .root => .ok []
  | .current => .ok place
  | .parent => .ok place.dropLast
  | .name n => if n.utf8ByteSize ≤ nameLimit then .ok (place ++ [n]) else .error .nameTooLong

/-- The fault of what is not a directory. -/
def directoryFault? (t : FileTree) (place : List String) : Option FileError :=
  if (t.file? place).isSome then some .notDirectory
  else if t.hasDirectory place then none
  else some .missing

/-- The place that steps lead to. All but the last must lead to directories. -/
def walk (t : FileTree) (place : List String) :
    List Path.Component → Except FileError (List String)
  | [] => .ok place
  | c :: rest =>
      match t.directoryFault? place with
      | some e => .error e
      | none => do t.walk (← step place c) rest

/-- Whether a path can only be that of a directory, as it ends in a slash or in a dot by itself. -/
def demandsDirectory (p : Path) : Bool :=
  match (p.text.toList.splitOn '/').reverse with
  | last :: _ :: _ => last = [] || last = ['.']
  | _ => false

/-- The place of a path. -/
def locate (t : FileTree) (p : Path) : Except FileError (List String) := do
  if p.text = "" then throw .missing
  if let some e := p.fault? then throw e
  let place ← t.walk working p.components
  if demandsDirectory p && (t.file? place).isSome then throw .notDirectory
  return place

/-- Whether a path leads to a directory. -/
def isDirectory (t : FileTree) (p : Path) : Bool :=
  match t.locate p with
  | .ok place => t.hasDirectory place
  | .error _ => false

/-- The contents of the file at a path. -/
def read (t : FileTree) (p : Path) : Except FileError (List UInt8) := do
  let place ← t.locate p
  match t.file? place with
  | some contents => return contents
  | none => if t.hasDirectory place then throw .directory else throw .missing

/-- The name of a place, if it stands right in a directory. -/
def nameIn? (directory place : List String) : Option String :=
  if place.dropLast = directory then place.getLast? else none

/-- The names in the directory at a path. -/
def entries (t : FileTree) (p : Path) : Except FileError (List String) := do
  let place ← t.locate p
  match t.directoryFault? place with
  | some e => throw e
  | none =>
      return t.directories.filterMap (nameIn? place) ++
        (t.files.map Prod.fst).filterMap (nameIn? place)

/-- Make the directory at a path; the one above it must be there, and it must not. -/
def makeDirectory (t : FileTree) (p : Path) : Except FileError FileTree := do
  if let some e := p.fault? then throw e
  match p.components.getLast? with
  | none => throw .missing
  | some last =>
      let above ← t.walk working p.components.dropLast
      if let some e := t.directoryFault? above then throw e
      let place ← step above last
      if (t.file? place).isSome || t.hasDirectory place then throw .taken
      return { t with directories := t.directories ++ [place] }

/-- Put contents at a place, over what may be there. -/
def putFile (t : FileTree) (place : List String) (contents : List UInt8) : FileTree :=
  if (t.file? place).isSome then
    { t with files := t.files.map fun f => if f.1 = place then (place, contents) else f }
  else { t with files := t.files ++ [(place, contents)] }

/-- Write a file; its directory must be there. -/
def write (t : FileTree) (p : Path) (contents : List UInt8) : Except FileError FileTree := do
  let place ← t.locate p
  if t.hasDirectory place then throw .directory
  else if demandsDirectory p then throw .directory
  else return t.putFile place contents

/-- The path from the working directory to a place below it. -/
def pathBelow? (place : List String) : Option String :=
  if working.isPrefixOf place then some (String.intercalate "/" (place.drop working.length))
    else none

/-- The files below the working directory that are not in another tree with the same contents, in
    the order of their paths. -/
def changesSince (before after : FileTree) : List (String × List UInt8) :=
  let changed := after.files.filter fun f => before.file? f.1 != some f.2
  (Dict.ofList (changed.filterMap fun f => (pathBelow? f.1).map (·, f.2))).entries

/-- An operation on a tree that changes it. -/
def updating (f : FileTree → Except FileError FileTree) :
    ExceptT FileError (StateM FileTree) Unit :=
  ExceptT.mk fun t =>
    match f t with
    | .ok t => pure (.ok (), t)
    | .error e => pure (.error e, t)

/-- An operation on a tree that looks at it. -/
def looking {α : Type} (f : FileTree → Except FileError α) :
    ExceptT FileError (StateM FileTree) α :=
  ExceptT.mk fun t => pure (f t, t)

/-- Access to the files of a tree. -/
def access : FileAccess (StateM FileTree) :=
  { isDirectory := fun p t => pure (t.isDirectory p, t)
    entries := fun p => looking fun t => t.entries p
    read := fun p => looking fun t => t.read p
    makeDirectory := fun p => updating fun t => t.makeDirectory p
    write := fun p contents => updating fun t => t.write p contents }

end FileTree

end Flowsmith

import Flowsmith.CommandLine

/-!
The command: file access by the operating system, and the entry point.
-/

namespace Flowsmith.CommandLine

/-- The directory entry whose root is a path, which the operating system finds from the working
    directory. -/
def located (p : Path) : IO.FS.DirEntry :=
  { root := p.text, fileName := "" }

/-- The number and the wording that the operating system gives an error. -/
def systemError? : IO.Error → Option (UInt32 × String)
  | .alreadyExists _ code details => some (code, details)
  | .otherError code details => some (code, details)
  | .resourceBusy code details => some (code, details)
  | .resourceVanished code details => some (code, details)
  | .unsupportedOperation code details => some (code, details)
  | .hardwareFault code details => some (code, details)
  | .unsatisfiedConstraints code details => some (code, details)
  | .illegalOperation code details => some (code, details)
  | .noFileOrDirectory _ code details => some (code, details)
  | .invalidArgument _ code details => some (code, details)
  | .permissionDenied _ code details => some (code, details)
  | .resourceExhausted _ code details => some (code, details)
  | .inappropriateType _ code details => some (code, details)
  | .noSuchThing _ code details => some (code, details)
  | _ => none

/-- The error of a file operation. Some of the system's numbers come with a sign. -/
def fileError (e : IO.Error) : FileError :=
  match systemError? e with
  | none => .other (toString e)
  | some (code, details) =>
      let number := code.toInt32.toInt.natAbs
      match number with
      | 2 => .missing
      | 17 => .taken
      | 20 => .notDirectory
      | 21 => .directory
      | 36 => .nameTooLong
      | _ => .other s!"{details} (os error {number})"

/-- Run a file operation, and take its error as a value. -/
def attempt {α : Type} (operation : IO α) : ExceptT FileError IO α :=
  ExceptT.mk do
    try
      return .ok (← operation)
    catch e => return .error (fileError e)

/-- The empty path leads nowhere, and no other path with a fault does. -/
def checkPath (p : Path) : ExceptT FileError IO Unit := do
  if p.text = "" then throw .missing
  if let some e := p.fault? then throw e

/-- Access to the files of the operating system. -/
def systemFiles : FileAccess IO :=
  { isDirectory := fun p =>
      if p.text = "" || p.fault?.isSome then return false else (located p).root.isDir
    entries := fun p => do
      let found ← attempt (located p).root.readDir
      return found.toList.map fun e => e.fileName
    read := fun p => do
      checkPath p
      if ← (located p).root.isDir then throw .directory
      return (← attempt (IO.FS.readBinFile (located p).root)).toList
    makeDirectory := fun p => do
      checkPath p
      attempt (IO.FS.createDir (located p).root)
    write := fun p contents => do
      checkPath p
      attempt (IO.FS.writeBinFile (located p).root contents.toByteArray) }

/-- The environment variables that a configuration may come from. -/
def systemEnvironment : IO (Dict String) := do
  let found ← Config.environmentNames.mapM fun name => do
    return (← IO.getEnv name).map fun value => (name, value)
  return Dict.ofList (found.filterMap id)

end Flowsmith.CommandLine

open Flowsmith.CommandLine in
def main (arguments : List String) : IO UInt32 := do
  let outcome ← run systemFiles (← systemEnvironment) arguments
  (← IO.getStderr).putStr outcome.stderr
  (← IO.getStdout).putStr outcome.stdout
  return outcome.exitCode

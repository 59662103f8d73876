import Flowsmith.Batch.Compile
import Flowsmith.Config.Read
import Flowsmith.FileTree

/-!
The command line: definitions are read from files and directories, compiled, and the artifacts are
written below an output directory.
-/

namespace Flowsmith.CommandLine

/-- What a compilation is asked for. -/
structure Arguments where
  inputs : List Path
  output : Path
  config : Option Path
  softErrors : Bool
  emitPlaceholder : Bool
deriving DecidableEq, Repr

/-- What the command line asks for. -/
inductive Request where
  | help
  | compile (arguments : Arguments)
deriving DecidableEq, Repr

/-- What is wrong with the arguments. -/
inductive ArgumentError where
  /-- An option stands last that needs a value. -/
  | valueMissing (option value : String)
  | optionMissing (option : String)
  | unknown (argument : String)
deriving DecidableEq, Repr

/-- The wording of an error. -/
def ArgumentError.message : ArgumentError → String
  | .valueMissing option value => s!"{option} requires a {value}"
  | .optionMissing option => s!"{option} is required"
  | .unknown argument => s!"Unknown argument: {argument}"

/-- The options that have been read. -/
structure Options where
  inputs : List Path := []
  output : Option Path := none
  config : Option Path := none
  softErrors : Bool := false
  emitPlaceholder : Bool := false

/-- The request of complete options. -/
def Options.request (o : Options) : Except ArgumentError Request :=
  if o.inputs.isEmpty then .error (.optionMissing "--input")
  else match o.output with
    | none => .error (.optionMissing "--output")
    | some output => .ok (.compile
        { inputs := o.inputs
          output
          config := o.config
          softErrors := o.softErrors
          emitPlaceholder := o.emitPlaceholder })

/-- Read the remaining arguments. Of a repeated option other than inputs, the last value counts. -/
def readArguments (o : Options) : List String → Except ArgumentError Request
  | [] => o.request
  | "--help" :: _ => .ok .help
  | "-h" :: _ => .ok .help
  | ["--input"] => .error (.valueMissing "--input" "path")
  | "--input" :: path :: rest => readArguments { o with inputs := o.inputs ++ [⟨path⟩] } rest
  | ["--output"] => .error (.valueMissing "--output" "directory")
  | "--output" :: path :: rest => readArguments { o with output := some ⟨path⟩ } rest
  | ["--config"] => .error (.valueMissing "--config" "path")
  | "--config" :: path :: rest => readArguments { o with config := some ⟨path⟩ } rest
  | "--soft-errors" :: rest => readArguments { o with softErrors := true } rest
  | "--emit-placeholder" :: rest => readArguments { o with emitPlaceholder := true } rest
  | argument :: _ => .error (.unknown argument)

/-- The request of a command line. -/
def Request.ofArguments (arguments : List String) : Except ArgumentError Request :=
  readArguments {} arguments

/-- How to use the command. -/
def usage : String :=
  String.join ([
    "Usage: procflow-compile [OPTIONS]",
    "",
    "Compile process definition files into generated sources.",
    "",
    "OPTIONS:",
    "    --input <path>       Definition file or directory (repeatable, required)",
    "    --output <dir>       Directory receiving the generated files (required)",
    "    --config <file>      JSON build configuration",
    "    --soft-errors        Report per-process errors without failing the run",
    "    --emit-placeholder   Compile a placeholder process when no definitions are found",
    "    --help               Show this help message",
    "",
    "ENVIRONMENT:",
    "    PROCFLOW_*           Configuration overrides (see CodegenConfig::apply_env)",
    "    RUST_LOG             Log filter (default: warn)",
    "",
    "EXAMPLES:",
    "    # Compile every definition in a directory",
    "    procflow-compile --input defs/ --output ./generated",
    "",
    "    # Keep going when a single process fails",
    "    procflow-compile --input defs/ --output ./generated --soft-errors",
    ""].map (· ++ "\n"))

/-- What the command leaves: an exit code and two texts. -/
structure Outcome where
  exitCode : UInt32
  stdout : String
  stderr : String
deriving DecidableEq, Repr

/-- The outcome of a command that failed. -/
def Outcome.failure (stderr : String) : Outcome :=
  { exitCode := 1, stdout := "", stderr }

variable {m : Type → Type} [Monad m]

/-- The configuration that the arguments ask for, or the wording of what is wrong with it. -/
def loadConfig (files : FileAccess m) (environment : Dict String) (a : Arguments) :
    ExceptT ConfigError m Config := do
  let base ← match a.config with
    | none => pure Config.standard
    | some path => do
        let contents ← (files.read path).adapt fun e => ConfigError.read path.text e.message
        match Text.decodeUtf8 contents with
        | .ok text => ExceptT.mk (pure (Config.ofText text))
        | .error _ => throw (.read path.text FileError.notText.message)
  let config ← ExceptT.mk (pure (base.applyEnvironment environment))
  return { config with
    failOnError := config.failOnError && !a.softErrors
    emitPlaceholderWhenEmpty := config.emitPlaceholderWhenEmpty || a.emitPlaceholder }

/-- The definition files in a directory and below it, in the order of their names. -/
def filesBelow (files : FileAccess m) : Nat → Path → ExceptT FileError m (List Path)
  | 0, _ => throw .nameTooLong
  | depth + 1, directory => do
      let names := (← files.entries directory).mergeSort (fun a b => decide (a ≤ b))
      let found ← names.mapM fun name => do
        let path := directory.join name
        if ← files.isDirectory path then filesBelow files depth path
        else return if Resource.hasJsonExtension path.text then [path] else []
      return found.flatten

/-- The greatest depth of directories: no path has more bytes. -/
def depthLimit : Nat := 4096

/-- The definition files of an input: those of a directory, or else the input itself. -/
def filesOf (files : FileAccess m) (input : Path) : ExceptT FileError m (List Path) := do
  if ← files.isDirectory input then filesBelow files depthLimit input else return [input]

/-- The definition files of all inputs. -/
def collectFiles (files : FileAccess m) (inputs : List Path) : ExceptT String m (List Path) := do
  let found ← inputs.mapM fun input =>
    (filesOf files input).adapt fun e =>
      s!"Error reading {Text.quoted input.text}: {e.message}"
  return found.flatten

/-- The resource in a file. -/
def readResource (files : FileAccess m) (path : Path) : ExceptT String m Resource := do
  let contents ← (files.read path).adapt fun e =>
    s!"Error reading definition file {Text.quoted path.text}: {e.message}"
  return { path := path.text, contents }

/-- The configuration and the resources of a compilation. -/
def prepare (files : FileAccess m) (environment : Dict String) (a : Arguments) :
    ExceptT String m (Config × List Resource) := do
  let config ← (loadConfig files environment a).adapt fun e =>
    s!"Error loading configuration: {e.message}"
  let paths ← collectFiles files a.inputs
  let resources ← paths.mapM (readResource files)
  return (config, resources)

/-- Write artifacts below a directory. -/
def writeArtifacts (files : FileAccess m) (root : Path) (artifacts : List Artifact) :
    ExceptT FileError m Unit :=
  artifacts.forM fun a => files.writeDeep (root.join a.path.text) a.content.bytes

/-- What is said of a compilation whose artifacts are written. -/
def summary (output : Output) : String :=
  "Compilation finished:\n" ++
    s!"  Processes: {output.compiled.length}\n" ++
    s!"  Artifacts: {output.artifacts.artifacts.length}\n" ++
    s!"  Warnings: {output.warnings.length}\n" ++
    (if output.errors.isEmpty then "" else Report.message output.errors ++ "\n")

/-- Compile resources, and write the artifacts. -/
def runCompilation (files : FileAccess m) (output : Path) (config : Config)
    (resources : List Resource) : m Outcome := do
  let announced := s!"Compiling {resources.length} definition file(s)\n"
  match Flowsmith.compile (Toolchain.ofConfig config) config [] resources with
  | .error e => return .failure (announced ++ s!"Compilation failed: {e.message}\n")
  | .ok compiled =>
      match ← (writeArtifacts files output compiled.artifacts.artifacts).run with
      | .error e =>
          return .failure (announced ++
            s!"Error writing artifacts to {Text.quoted output.text}: {e.message}\n")
      | .ok _ =>
          return {
            exitCode := 0
            stdout := s!"{compiled.artifacts.artifacts.length}\n"
            stderr := announced ++ summary compiled }

/-- Run the command. -/
def run (files : FileAccess m) (environment : Dict String) (arguments : List String) :
    m Outcome := do
  match Request.ofArguments arguments with
  | .error e => return .failure (s!"Error: {e.message}\n\n" ++ usage)
  | .ok .help => return { exitCode := 0, stdout := "", stderr := usage }
  | .ok (.compile a) =>
      match ← (prepare files environment a).run with
      | .error message => return .failure (message ++ "\n")
      | .ok (config, resources) => runCompilation files a.output config resources

end Flowsmith.CommandLine

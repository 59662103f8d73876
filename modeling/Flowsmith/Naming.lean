import Flowsmith.Path
import Flowsmith.Text.Blank

/-!
Names of generated things. Identifiers of definitions are arbitrary text; the names of types,
modules and fields in generated sources are derived from them here, and only here, so that one
generated file can refer to another by name. All rules look at ASCII only: every other character
divides words.
-/

namespace Flowsmith.Naming

/-- The characters that an identifier may hold. -/
def isWordChar (c : Char) : Bool :=
  c.isAlphanum || c == '_'

/-- A character in an identifier: itself when admitted, else an underscore. -/
def wordChar (c : Char) : Char :=
  if isWordChar c then c else '_'

/-- The characters of a sanitized identifier. -/
def sanitizeChars : List Char → List Char
  | [] => ['_', 'e', 'm', 'p', 't', 'y']
  | c :: rest => (if c.isDigit then ['_', c] else [wordChar c]) ++ rest.map wordChar

/-- An identifier as close to the text as the rules of identifiers allow. -/
def sanitize (s : String) : String :=
  String.ofList (sanitizeChars s.toList)

/-- Words run together, each with a capital first letter; `start` says whether the next letter or
    digit begins a word. -/
def capitalWords (start : Bool) : List Char → List Char
  | [] => []
  | c :: rest =>
      if c.isAlphanum then (if start then c.toUpper else c) :: capitalWords false rest
      else capitalWords true rest

/-- The characters of a type name: `Unnamed` when there is no word, and a letter before a digit. -/
def pascalChars (cs : List Char) : List Char :=
  match capitalWords true cs with
  | [] => ['U', 'n', 'n', 'a', 'm', 'e', 'd']
  | c :: rest => if c.isDigit then 'P' :: c :: rest else c :: rest

/-- A type name: words run together with capital first letters, inner capitals kept. -/
def pascal (s : String) : String :=
  String.ofList (pascalChars s.toList)

/-- Where the splitting of a text into small words stands: the last character written, and whether a
    capital would begin a new word. -/
structure SnakeState where
  last : Option Char := none
  afterSmall : Bool := false

/-- Words in small letters, divided by single underscores. A capital begins a word after a small
    letter or a digit; any other character divides words. -/
def smallWords (state : SnakeState) : List Char → List Char
  | [] => []
  | c :: rest =>
      if c.isUpper then
        let small := c.toLower :: smallWords ⟨some c.toLower, false⟩ rest
        if state.afterSmall then '_' :: small else small
      else if c.isAlphanum then c :: smallWords ⟨some c, true⟩ rest
      else if state.last.isNone || state.last == some '_' then
        smallWords ⟨state.last, false⟩ rest
      else '_' :: smallWords ⟨some '_', false⟩ rest

/-- The characters of a module or field name. -/
def snakeChars (cs : List Char) : List Char :=
  sanitizeChars (Text.stripChars (· == '_') (smallWords {} cs))

/-- A module or field name: small words divided by underscores. -/
def snake (s : String) : String :=
  String.ofList (snakeChars s.toList)

/-- Words that the generated language keeps for itself. -/
def keywords : List String :=
  ["as", "async", "await", "box", "break", "const", "continue", "crate", "dyn", "else", "enum",
    "extern", "false", "fn", "for", "gen", "if", "impl", "in", "let", "loop", "match", "mod",
    "move", "mut", "pub", "ref", "return", "self", "static", "struct", "super", "trait", "true",
    "try", "type", "unsafe", "use", "where", "while", "yield"]

/-- A field name that is no keyword. -/
def field (s : String) : String :=
  let name := snake s
  if name ∈ keywords then name ++ "_" else name

/-- The field that holds the process called as a sub-process. -/
def subProcessField (childId : String) : String :=
  snake childId ++ "_process"

end Flowsmith.Naming

namespace Flowsmith

/-- The names of everything generated for one process. -/
structure Names where
  /-- Begins every type name. -/
  stem : String
  /-- Begins the file and module names. -/
  moduleStem : String
  /-- The dotted package. -/
  package : String
deriving DecidableEq, Repr

namespace Names

/-- The names that belong to a process id in a package. -/
def ofId (processId package : String) : Names :=
  let stem := Naming.pascal processId
  { stem, moduleStem := Naming.snake stem, package }

def processClass (n : Names) : String := n.stem ++ "Process"

def instanceClass (n : Names) : String := n.stem ++ "ProcessInstance"

def modelClass (n : Names) : String := n.stem ++ "Model"

def inputModelClass (n : Names) : String := n.stem ++ "ModelInput"

def outputModelClass (n : Names) : String := n.stem ++ "ModelOutput"

def resourceClass (n : Names) : String := n.stem ++ "Resource"

/-- The consumer of the messages of a trigger. -/
def consumerClass (n : Names) (trigger : String) : String :=
  n.stem ++ "MessageConsumer" ++ Naming.pascal trigger

/-- The producer of the messages of a trigger. -/
def producerClass (n : Names) (trigger : String) : String :=
  n.stem ++ "MessageProducer" ++ Naming.pascal trigger

/-- The module of a generated type, which is also the stem of its file. -/
def moduleOf (className : String) : String :=
  Naming.snake className

/-- The file of a generated type. -/
def classPath (n : Names) (className : String) : Path :=
  artifactPath n.package (moduleOf className) "rs"

/-- The segments of the qualified name of a generated type, from the root module on. -/
def classSegments (n : Names) (className : String) : List String :=
  "crate" :: (packageSegments n.package).map Naming.sanitize ++ [moduleOf className, className]

/-- The qualified name of a generated type. -/
def classModulePath (n : Names) (className : String) : String :=
  String.intercalate "::" (n.classSegments className)

end Names

end Flowsmith

/-!
Relative and absolute file paths. A path keeps the text it was built from, but two paths denote the
same place when their components agree, and paths are ordered component by component.
-/

namespace Flowsmith

/-- A file path, kept as the text it was built from. -/
structure Path where
  text : String
deriving DecidableEq, Repr, Inhabited

namespace Path

/-- One step of a path. A `.` counts only where the path begins with it. -/
inductive Component where
  | root
  | current
  | parent
  | name (text : String)
deriving DecidableEq, Repr

/-- The path of no components. -/
def empty : Path := ⟨""⟩

/-- Components after the first one: empty pieces and `.` stand for nothing. -/
def stepOf (piece : List Char) : Option Component :=
  if piece = [] ∨ piece = ['.'] then none
  else if piece = ['.', '.'] then some .parent
  else some (.name (String.ofList piece))

/-- The steps of a path, in order. -/
def components (p : Path) : List Component :=
  match p.text.toList.splitOn '/' with
  | [] => []
  | first :: rest =>
      let steps := rest.filterMap stepOf
      if first = [] then
        if p.text.toList.head? = some '/' then .root :: steps else steps
      else if first = ['.'] then .current :: steps
      else (stepOf first).toList ++ steps

/-- The piece of a path that is read as a component. -/
def Component.text : Component → String
  | .root => "/"
  | .current => "."
  | .parent => ".."
  | .name n => n

/-- The order of components: root, `.`, `..`, then names by their characters. -/
def Component.compare : Component → Component → Ordering
  | .root, .root => .eq
  | .root, _ => .lt
  | _, .root => .gt
  | .current, .current => .eq
  | .current, _ => .lt
  | _, .current => .gt
  | .parent, .parent => .eq
  | .parent, _ => .lt
  | _, .parent => .gt
  | .name a, .name b => compareOfLessAndEq a b

/-- Lexicographic order of component lists. -/
def compareSteps : List Component → List Component → Ordering
  | [], [] => .eq
  | [], _ :: _ => .lt
  | _ :: _, [] => .gt
  | a :: as, b :: bs => (a.compare b).then (compareSteps as bs)

/-- Paths are ordered by their components. -/
def compare (p q : Path) : Ordering :=
  compareSteps p.components q.components

/-- Two paths denote the same place when their components agree. -/
def same (p q : Path) : Bool :=
  p.components == q.components

/-- Whether a path starts at the root. -/
def isAbsolute (p : Path) : Bool :=
  p.text.toList.head? = some '/'

/-- Append a piece of path. An absolute piece replaces what stands before it, and nothing divides
    the empty path from the piece. -/
def join (p : Path) (piece : String) : Path :=
  if piece.toList.head? = some '/' then ⟨piece⟩
  else if p.text = "" ∨ p.text.toList.getLast? = some '/' then ⟨p.text ++ piece⟩
  else ⟨p.text ++ "/" ++ piece⟩

/-- The path made of the pieces, joined from the empty path on. -/
def ofPieces (pieces : List String) : Path :=
  pieces.foldl join empty

/-- The path of some components. -/
def ofComponents (steps : List Component) : Path :=
  ofPieces (steps.map Component.text)

/-- The pieces of a path without those at its end that stand for nothing. The first piece stays. -/
def trimPieces : List (List Char) → List (List Char)
  | [] => []
  | first :: rest => first :: (rest.reverse.dropWhile (fun piece => (stepOf piece).isNone)).reverse

/-- The path without its last component. -/
def parent (p : Path) : Path :=
  let above := trimPieces (trimPieces (p.text.toList.splitOn '/')).dropLast
  if above = [[]] then ⟨"/"⟩ else ⟨String.intercalate "/" (above.map String.ofList)⟩

/-- The last component, when it is a name. -/
def fileName? (p : Path) : Option String :=
  match p.components.getLast? with
  | some (.name n) => some n
  | _ => none

/-- What follows the last dot of the file name, unless that dot begins the name. -/
def extension? (p : Path) : Option String := do
  let name ← p.fileName?
  let pieces := name.toList.splitOn '.'
  if pieces.length ≤ 1 then none
  else if pieces.length = 2 ∧ pieces.head? = some [] then none
  else pieces.getLast?.map String.ofList

end Path

/-- The segments of a dotted package name; empty ones are skipped. -/
def packageSegments (package : String) : List String :=
  ((package.toList.splitOn '.').filter (· ≠ [])).map String.ofList

/-- The directory of a dotted package name; the empty package is the output root. -/
def packageDir (package : String) : Path :=
  Path.ofPieces (packageSegments package)

/-- Where a generated file of a package goes. -/
def artifactPath (package stem extension : String) : Path :=
  (packageDir package).join (stem ++ "." ++ extension)

/-- Where the copy of a definition resource goes: under `resources`, in the directory of the
    package, by the file name of the resource. -/
def resourceCopyPath (package resource : String) : Path :=
  (Path.join ⟨"resources"⟩ (packageDir package).text).join
    ((Path.fileName? ⟨resource⟩).getD resource)

end Flowsmith

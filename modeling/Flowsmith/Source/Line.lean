/-!
Sources as lines. A line stands at a depth of indentation; a blank line stands at none. What is put
into a line is written as it is, even if it breaks the line.
-/

namespace Flowsmith.Source

/-- A line of a source. -/
inductive Line where
  | blank
  | text (depth : Nat) (content : String)
deriving DecidableEq, Repr

instance : Coe String Line := ⟨Line.text 0⟩

namespace Line

/-- The spaces of a depth. -/
def margin (depth : Nat) : String :=
  String.ofList (List.replicate (4 * depth) ' ')

/-- A line with its line break. -/
def render : Line → String
  | .blank => "\n"
  | .text depth content => margin depth ++ content ++ "\n"

/-- A line one level deeper. -/
def deeper : Line → Line
  | .blank => .blank
  | .text depth content => .text (depth + 1) content

/-- Lines one level deeper. -/
def indent (lines : List Line) : List Line :=
  lines.map deeper

/-- The text of lines. -/
def renderAll (lines : List Line) : String :=
  String.join (lines.map render)

/-- Lines between curly brackets, after a head. -/
def braced (head : String) (body : List Line) : List Line :=
  [.text 0 (head ++ " \x7b")] ++ indent body ++ [.text 0 "\x7d"]

/-- A function whose parameters stand on lines of their own. -/
def function (head : String) (parameters : List Line) (result : String) (body : List Line) :
    List Line :=
  [.text 0 (head ++ "(")] ++ indent parameters ++ braced (") -> " ++ result) body

end Line

end Flowsmith.Source

import Flowsmith.Json.Basic

/-!
Pointers into JSON values. A pointer is empty, or a run of steps that each begin with a slash; a
step names a field, or counts the items of a list from zero. In a step `~1` stands for a slash and
`~0` for a tilde.
-/

namespace Flowsmith.Json

/-- The name that a step stands for. -/
def unescapeStep : List Char → List Char
  | '~' :: '0' :: rest => '~' :: unescapeStep rest
  | '~' :: '1' :: rest => '/' :: unescapeStep rest
  | c :: rest => c :: unescapeStep rest
  | [] => []

/-- The place that a step counts to: digits without a leading zero. -/
def indexOfStep? (step : List Char) : Option Nat :=
  if step = [] ∨ !step.all Char.isDigit ∨ (step.head? = some '0' ∧ step.length ≠ 1) then none
  else some (step.foldl (fun n c => 10 * n + (c.toNat - '0'.toNat)) 0)

/-- The value that a step leads to. -/
def step? (v : Json) (step : List Char) : Option Json :=
  match v with
  | .object _ => v.field? (String.ofList step)
  | .array items => do items[← indexOfStep? step]?
  | _ => none

/-- The value that a pointer leads to. -/
def pointer? (v : Json) (pointer : String) : Option Json :=
  match pointer.toList with
  | [] => some v
  | '/' :: steps => ((steps.splitOn '/').map unescapeStep).foldlM step? v
  | _ => none

end Flowsmith.Json

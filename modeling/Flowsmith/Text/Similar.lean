import Flowsmith.Text.Distance
import Flowsmith.Text.Lowercase

/-!
Suggestions: the name that was probably meant. Names are compared in small letters by their edit
distance.
-/

namespace Flowsmith.Text

/-- The greatest distance at which a name is still suggested. -/
def suggestionLimit (target : String) : Nat :=
  target.utf8ByteSize / 2 + 2

/-- The first candidate of least distance among those that follow, given the best one so far. -/
def nearestFrom (distanceOf : String → Nat) (best : String) : List String → String
  | [] => best
  | c :: rest =>
      if distanceOf c < distanceOf best then nearestFrom distanceOf c rest
      else nearestFrom distanceOf best rest

/-- The candidate nearest to the target, if one is near enough; of several the first. -/
def similar? (target : String) (candidates : List String) : Option String :=
  let small := lowercase target
  let distanceOf (c : String) := distance small (lowercase c)
  match candidates.filter (fun c => distanceOf c ≤ suggestionLimit target) with
  | [] => none
  | c :: rest => some (nearestFrom distanceOf c rest)

end Flowsmith.Text

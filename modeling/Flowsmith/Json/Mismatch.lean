/-!
Mismatches: the ways in which a well-formed JSON value fails to be what a reader of records, lists
and choices expects.
-/

namespace Flowsmith

/-- Why a value is not what was expected. Values and expectations are given by their wording. -/
inductive Mismatch where
  | missingField (name : String)
  | duplicateField (name : String)
  | unknownVariant (name : String) (expected : List String)
  | invalidType (found expected : String)
  | invalidValue (found expected : String)
  | invalidLength (length : Nat) (expected : String)
deriving DecidableEq, Repr

namespace Mismatch

/-- A name between backticks. -/
def ticked (name : String) : String :=
  "`" ++ name ++ "`"

/-- The choices, as they are offered in a message. -/
def offer : List String → String
  | [] => "nothing"
  | [a] => ticked a
  | [a, b] => ticked a ++ " or " ++ ticked b
  | names => "one of " ++ String.intercalate ", " (names.map ticked)

/-- The wording of a mismatch. -/
def message : Mismatch → String
  | .missingField name => "missing field " ++ ticked name
  | .duplicateField name => "duplicate field " ++ ticked name
  | .unknownVariant name expected =>
      "unknown variant " ++ ticked name ++ ", expected " ++ offer expected
  | .invalidType found expected => "invalid type: " ++ found ++ ", expected " ++ expected
  | .invalidValue found expected => "invalid value: " ++ found ++ ", expected " ++ expected
  | .invalidLength length expected => s!"invalid length {length}, expected " ++ expected

end Mismatch

end Flowsmith

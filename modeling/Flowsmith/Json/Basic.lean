import Flowsmith.Binary64
import Flowsmith.Dict
import Flowsmith.Text.Quoted

/-!
JSON values. Integers and floating-point numbers are kept apart, and the fields of an object are
kept in increasing order of their names, each name once.
-/

namespace Flowsmith

/-- A JSON number: an integer, or a floating-point number. -/
inductive Number where
  | integer (n : Int)
  | real (x : Binary64)
deriving DecidableEq, Repr

/-- The text of a number. -/
def Number.text : Number → String
  | .integer n => toString n
  | .real x => x.text

/-- A JSON value. -/
inductive Json where
  | null
  | bool (value : Bool)
  | number (value : Number)
  | string (value : String)
  | array (items : List Json)
  | object (fields : List (String × Json))
deriving Inhabited

namespace Json

/-- The object with the given fields; the last of two fields with one name wins. -/
def ofFields (fields : List (String × Json)) : Json :=
  .object (Dict.ofList fields).entries

/-- An integer. -/
def int (n : Int) : Json :=
  .number (.integer n)

/-- A list of texts. -/
def strings (items : List String) : Json :=
  .array (items.map .string)

/-- A text, or null. -/
def stringOrNull : Option String → Json
  | some s => .string s
  | none => .null

/-- The value of a field; none for values that are no objects. -/
def field? (name : String) : Json → Option Json
  | .object fields => fields.lookup name
  | _ => none

/-- The wording of a value in a complaint: its kind, and the value itself when it is a scalar. -/
def found : Json → String
  | .null => "null"
  | .bool b => s!"boolean `{b}`"
  | .number (.integer n) => s!"integer `{n}`"
  | .number (.real x) => s!"floating point `{x.text}`"
  | .string s => "string " ++ Text.quoted s
  | .array _ => "sequence"
  | .object _ => "map"

end Json

end Flowsmith

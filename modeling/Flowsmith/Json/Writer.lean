import Flowsmith.Json.Basic

/-!
Values as JSON text: without blanks, or laid out with one item a line and two spaces for each level.
-/

namespace Flowsmith.Json

/-- A character inside a JSON string. -/
def escapeChar (c : Char) : List Char :=
  if c = '"' then ['\\', '"']
  else if c = '\\' then ['\\', '\\']
  else if c = '\x08' then ['\\', 'b']
  else if c = '\x0c' then ['\\', 'f']
  else if c = '\n' then ['\\', 'n']
  else if c = '\r' then ['\\', 'r']
  else if c = '\t' then ['\\', 't']
  else if c.toNat < 32 then
    ['\\', 'u', '0', '0'] ++ (if c.toNat < 16 then ['0'] else ['1']) ++
      Text.hexDigits (c.toNat % 16)
  else [c]

/-- A text as a JSON string. -/
def quote (s : String) : String :=
  String.ofList ('"' :: s.toList.flatMap escapeChar ++ ['"'])

mutual

/-- The text of a value, without blanks. -/
def compress : Json → String
  | .null => "null"
  | .bool b => if b then "true" else "false"
  | .number n => n.text
  | .string s => quote s
  | .array items => "[" ++ String.intercalate "," (compressItems items) ++ "]"
  | .object fields => "\x7b" ++ String.intercalate "," (compressFields fields) ++ "\x7d"

/-- The texts of the items of a list. -/
def compressItems : List Json → List String
  | [] => []
  | v :: rest => compress v :: compressItems rest

/-- The texts of the fields of an object. -/
def compressFields : List (String × Json) → List String
  | [] => []
  | (name, v) :: rest => (quote name ++ ":" ++ compress v) :: compressFields rest

end

/-- A line break and the indentation of a level. -/
def lineBreak (level : Nat) : String :=
  "\n" ++ String.ofList (List.replicate (2 * level) ' ')

/-- Entries between brackets, one a line; nothing stands between the brackets when there is none. -/
def layOut (left right : String) (level : Nat) : List String → String
  | [] => left ++ right
  | entries =>
      left ++ lineBreak (level + 1) ++
        String.intercalate ("," ++ lineBreak (level + 1)) entries ++ lineBreak level ++ right

mutual

/-- The text of a value that stands at a level of indentation, one item a line. -/
def prettyAt (level : Nat) : Json → String
  | .null => "null"
  | .bool b => if b then "true" else "false"
  | .number n => n.text
  | .string s => quote s
  | .array items => layOut "[" "]" level (prettyItems (level + 1) items)
  | .object fields => layOut "\x7b" "\x7d" level (prettyFields (level + 1) fields)

/-- The texts of the items of a list. -/
def prettyItems (level : Nat) : List Json → List String
  | [] => []
  | v :: rest => prettyAt level v :: prettyItems level rest

/-- The texts of the fields of an object. -/
def prettyFields (level : Nat) : List (String × Json) → List String
  | [] => []
  | (name, v) :: rest => (quote name ++ ": " ++ prettyAt level v) :: prettyFields level rest

end

/-- The text of a value, laid out. -/
def pretty (v : Json) : String :=
  prettyAt 0 v

end Flowsmith.Json

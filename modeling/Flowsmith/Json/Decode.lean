import Flowsmith.Json.Basic
import Flowsmith.Json.Mismatch

/-!
Readers of JSON values. A record is an object, or a list of its fields in the order of their
declaration; unknown fields are passed over. In an object the first faulty field in the order of
names is reported, and a missing one only when all that are there fit.
-/

namespace Flowsmith.Json

variable {α β : Type}

/-- A reader of values. -/
abbrev Decoder (α : Type) := Json → Except Mismatch α

/-- How a value reaches its reader: at once, or held back until the kind of the value around it is
    known. The two differ in a complaint about surplus items and in what stands for nothing. -/
inductive Handling where
  | direct
  | held
deriving DecidableEq, Repr

/-- A value of the wrong kind. -/
def unfit (expected : String) (v : Json) : Except Mismatch α :=
  .error (.invalidType v.found expected)

def decodeString : Decoder String
  | .string s => .ok s
  | v => unfit "a string" v

def decodeBool : Decoder Bool
  | .bool b => .ok b
  | v => unfit "a boolean" v

/-- A list of values. -/
def decodeList (item : Decoder α) : Decoder (List α)
  | .array items => items.mapM item
  | v => unfit "a sequence" v

/-- A dictionary of values. -/
def decodeDict (item : Decoder α) : Decoder (Dict α)
  | .object fields => do
      let entries ← fields.mapM (fun (name, v) => return (name, ← item v))
      return Dict.ofList entries
  | v => unfit "a map" v

/-- A value or null. -/
def decodeOption (item : Decoder α) : Decoder (Option α)
  | .null => .ok none
  | v => some <$> item v

/-- What stands for nothing: null, and in a held value the empty object too. -/
def decodeNothing (handling : Handling) : Decoder Unit
  | .null => .ok ()
  | .object [] => if handling = .held then .ok () else unfit "unit" (.object [])
  | v => unfit "unit" v

/-- One of a few words, by itself or as the only name of an object that holds nothing. -/
def decodeWord (handling : Handling) (words : List String) (parse? : String → Option α) : Decoder α
  | .string s =>
      match parse? s with
      | some a => .ok a
      | none => .error (.unknownVariant s words)
  | .object [(s, v)] =>
      match parse? s with
      | some a => do
          decodeNothing handling v
          return a
      | none => .error (.unknownVariant s words)
  | .object _ => .error (.invalidValue "map" "map with a single key")
  | v => unfit "string or map" v

/-- The kind of a value, by its name or by its index. -/
def decodeTag (names : List String) : Decoder String
  | .string s => if s ∈ names then .ok s else .error (.unknownVariant s names)
  | .number (.integer n) =>
      if n < 0 then unfit "variant identifier" (.number (.integer n))
      else match names[n.toNat]? with
        | some name => .ok name
        | none => .error (.invalidValue (found (.number (.integer n)))
            s!"variant index 0 <= i < {names.length}")
  | v => unfit "variant identifier" v

/-- A number of elements. -/
def elementCount (n : Nat) : String :=
  if n = 1 then "1 element" else s!"{n} elements"

/-- How the fields of a record are given. -/
inductive Form where
  /-- By their names. -/
  | named
  /-- One after the other, in the order of these names, for such a record. -/
  | listed (names : List String) (record : String)

/-- The complaint about a field that is not there. -/
def Form.missing (name : String) : Form → Mismatch
  | .named => .missingField name
  | .listed names record => .invalidLength (names.idxOf name) record

/-- The fields of a record: their names in the order of their declaration, what is wrong with a
    value of one of them, and the record that the values make up. -/
structure Fields (α : Type) where
  names : List String
  fault? : String → Json → Option Mismatch
  build : Form → (String → Option Json) → Except Mismatch α

namespace Fields

/-- What is wrong with the value of one field. -/
def faultOf (name : String) (item : Decoder α) (key : String) (v : Json) : Option Mismatch :=
  if key = name then
    match item v with
    | .ok _ => none
    | .error m => some m
  else none

/-- A field that must be there. -/
def required (name : String) (item : Decoder α) : Fields α where
  names := [name]
  fault? := faultOf name item
  build form value? :=
    match value? name with
    | some v => item v
    | none => .error (form.missing name)

/-- A field that may be null, or absent from an object. -/
def optional (name : String) (item : Decoder α) : Fields (Option α) where
  names := [name]
  fault? := faultOf name (decodeOption item)
  build form value? :=
    match value? name, form with
    | some v, _ => decodeOption item v
    | none, .named => .ok none
    | none, form => .error (form.missing name)

/-- A field with a value for when it is absent. -/
def defaulted (name : String) (value : α) (item : Decoder α) : Fields α where
  names := [name]
  fault? := faultOf name item
  build _ value? :=
    match value? name with
    | some v => item v
    | none => .ok value

/-- A record of no fields. -/
def none (a : α) : Fields α where
  names := []
  fault? _ _ := Option.none
  build _ _ := .ok a

/-- Two groups of fields, one after the other. -/
def combine (f : Fields (α → β)) (x : Fields α) : Fields β where
  names := f.names ++ x.names
  fault? key v := (f.fault? key v).or (x.fault? key v)
  build form value? := do
    let g ← f.build form value?
    let a ← x.build form value?
    return g a

instance : Applicative Fields where
  pure := none
  seq f x := combine f (x ())

/-- The record of an object. -/
def ofObject (fields : Fields α) (entries : List (String × Json)) : Except Mismatch α :=
  match entries.findSome? (fun e => fields.fault? e.1 e.2) with
  | some m => .error m
  | Option.none => fields.build .named (fun name => entries.lookup name)

/-- The complaint about surplus items of a list. -/
def surplus (handling : Handling) (expected count : Nat) : Mismatch :=
  match handling with
  | .direct => .invalidLength count "fewer elements in array"
  | .held => .invalidLength count (elementCount expected ++ " in sequence")

/-- The record of a list. -/
def ofItems (fields : Fields α) (handling : Handling) (record : String) (items : List Json) :
    Except Mismatch α := do
  let size := fields.names.length
  let form := Form.listed fields.names (record ++ " with " ++ elementCount size)
  let a ← fields.build form (fun name => (fields.names.zip items).lookup name)
  if items.length > size then .error (surplus handling size items.length) else return a

/-- A record, as an object or as a list. -/
def decode (fields : Fields α) (handling : Handling) (record : String) : Decoder α
  | .object entries => fields.ofObject entries
  | .array items => fields.ofItems handling record items
  | v => unfit record v

end Fields

end Flowsmith.Json

import Flowsmith.Json.Reader

/-!
JSON text as a value. Nesting is bounded; a repeated name takes its last value.
-/

namespace Flowsmith.Json

namespace Reader

/-- Opening this many brackets inside one another is too deep. -/
def depthLimit : Nat := 128

/-- After a colon's place: the colon between a name and its value. -/
def colon : Reader Unit := do
  match ← peekSolid with
  | none => failNext .endInObject
  | some b => if b == byte ':' then skip else failNext .expectedColon

/-- Whether another item of a list follows; the closing bracket is taken when none does. -/
def listContinues (first : Bool) : Reader Bool := do
  match ← peekSolid with
  | none => failNext .endInList
  | some b =>
      if b == byte ']' then
        skip
        return false
      else if first then return true
      else if b == byte ',' then
        skip
        match ← peekSolid with
        | none => failNext .endInValue
        | some b => if b == byte ']' then failNext .trailingComma else return true
      else failNext .expectedListEnd

/-- Whether another field of an object follows; its opening quote, or else the closing brace, is
    taken. -/
def objectContinues (first : Bool) : Reader Bool := do
  match ← peekSolid with
  | none => failNext .endInObject
  | some b =>
      if b == byte '\x7d' then
        skip
        return false
      else if first then
        if b == byte '"' then
          skip
          return true
        else failNext .keyNotString
      else if b == byte ',' then
        skip
        match ← peekSolid with
        | none => failNext .endInValue
        | some b =>
            if b == byte '"' then
              skip
              return true
            else if b == byte '\x7d' then failNext .trailingComma
            else failNext .keyNotString
      else failNext .expectedObjectEnd

/-- A scalar that begins with the given byte; `none` when no scalar does. -/
def scalar? (b : UInt8) : Option (Reader Json) :=
  if b == byte 'n' then some do
    skip
    word ['u', 'l', 'l']
    return .null
  else if b == byte 't' then some do
    skip
    word ['r', 'u', 'e']
    return .bool true
  else if b == byte 'f' then some do
    skip
    word ['a', 'l', 's', 'e']
    return .bool false
  else if b == byte '-' then some do
    skip
    return .number (← number true)
  else if isDigit b then some do
    return .number (← number false)
  else if b == byte '"' then some do
    skip
    return .string (← stringBody)
  else none

mutual

/-- A value, when `depth` more brackets would be too deep. -/
def value : Nat → Nat → Reader Json
  | 0, _ => failNext .endInValue
  | fuel + 1, depth => do
      match ← peekSolid with
      | none => failNext .endInValue
      | some b =>
          match scalar? b with
          | some read => read
          | none =>
              if b == byte '[' then
                if depth ≤ 1 then failNext .tooDeep
                skip
                return .array (← items fuel (depth - 1) [])
              else if b == byte '\x7b' then
                if depth ≤ 1 then failNext .tooDeep
                skip
                return .object (← fields fuel (depth - 1) true [])
              else failNext .expectedValue

/-- The items of a list, after those already read (last one first). -/
def items : Nat → Nat → List Json → Reader (List Json)
  | 0, _, _ => failNext .endInList
  | fuel + 1, depth, done => do
      if ← listContinues done.isEmpty then
        let v ← value fuel depth
        items fuel depth (v :: done)
      else return done.reverse

/-- The fields of an object, after those already read. -/
def fields : Nat → Nat → Bool → List (String × Json) → Reader (List (String × Json))
  | 0, _, _, _ => failNext .endInObject
  | fuel + 1, depth, first, done => do
      if ← objectContinues first then
        let name ← stringBody
        colon
        let v ← value fuel depth
        fields fuel depth false (insertEntry name v done)
      else return done

end

/-- Nothing but blanks may follow. -/
def finish : Reader Unit := do
  match ← peekSolid with
  | none => pure ()
  | some _ => failNext .trailingCharacters

/-- Run a reader on a whole text. Each byte is worth two steps: one for a bracket, one for what
    stands in it. -/
def run {α : Type} (reader : Nat → Reader α) (text : String) : Except Fault α :=
  let cursor := Cursor.ofString text
  let whole : Reader α := do
    let a ← reader (2 * cursor.rest.length + 2)
    finish
    return a
  (whole cursor).map Prod.fst

end Reader

/-- The value that a text stands for. -/
def parse (text : String) : Except Fault Json :=
  Reader.run (fun fuel => Reader.value fuel Reader.depthLimit) text

end Flowsmith.Json

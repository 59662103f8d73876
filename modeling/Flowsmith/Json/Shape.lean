import Flowsmith.Json.Skip

/-!
Reading a text that must have a known shape. What does not fit is reported with its place. Unknown
fields are passed over, and a field may not be repeated. The result is the value with nothing but
the known fields, which records given as lists have by name too.
-/

namespace Flowsmith.Json

/-- The shape of a value: a truth value, a text, one of a few words, a list, a dictionary of texts,
    or a record with named fields, some of which are required. -/
inductive Shape where
  | flag
  | text
  | word (words : List String)
  | list (item : Shape)
  | texts
  | record (name : String) (fields : List (String × Bool × Shape))

namespace Reader

/-- Complain about a value that begins with the byte `b`. A scalar is read first; of a list or an
    object nothing is. -/
def unfit {α : Type} (expected : String) (b : UInt8) : Reader α := do
  match scalar? b with
  | some read => do
      let v ← read
      failHere (.mismatch (.invalidType v.found expected))
  | none =>
      if b == byte '[' then failHere (.mismatch (.invalidType "sequence" expected))
      else if b == byte '\x7b' then failHere (.mismatch (.invalidType "map" expected))
      else failNext .expectedValue

/-- The byte that a value begins with. -/
def valueStart : Reader UInt8 := do
  match ← peekSolid with
  | none => failNext .endInValue
  | some b => return b

/-- A text, or a complaint. -/
def shapedText (expected : String) : Reader String := do
  let b ← valueStart
  if b == byte '"' then
    skip
    stringBody
  else unfit expected b

/-- A truth value. -/
def shapedFlag : Reader Json := do
  let b ← valueStart
  if b == byte 't' || b == byte 'f' then
    match scalar? b with
    | some read => read
    | none => failNext .expectedValue
  else unfit "a boolean" b

/-- The only name of an object, after its opening brace. An object without a name lacks a value. -/
def soleName : Reader String := do
  match ← peekSolid with
  | none => failNext .endInObject
  | some b =>
      if b == byte '"' then
        skip
        stringBody
      else failNext (if b == byte '\x7d' then .expectedValue else .keyNotString)

/-- A text that must be one of the words. -/
def knownWord (words : List String) (s : String) : Reader String :=
  if s ∈ words then return s else failHere (.mismatch (.unknownVariant s words))

/-- One of the words, by itself or as the only name of an object that holds null. -/
def shapedWord (words : List String) : Reader Json := do
  let b ← valueStart
  if b == byte '"' then
    skip
    return .string (← knownWord words (← stringBody))
  else if b == byte '\x7b' then
    skip
    let s ← knownWord words (← soleName)
    colon
    let b ← valueStart
    if b == byte 'n' then
      skip
      word ['u', 'l', 'l']
    else unfit "unit" b
    match ← peekSolid with
    | none => failHere .endInObject
    | some b =>
        if b == byte '\x7d' then
          skip
          return .string s
        else failHere .expectedValue
  else failNext .expectedValue

/-- The fields of a dictionary of texts, after those already read. -/
def shapedTexts : Nat → Bool → List (String × Json) → Reader (List (String × Json))
  | 0, _, _ => failNext .endInObject
  | fuel + 1, first, done => do
      if ← objectContinues first then
        let name ← stringBody
        colon
        let s ← shapedText "a string"
        shapedTexts fuel false (insertEntry name (.string s) done)
      else return done

/-- The end of a record that is given as a list, after all of its fields. -/
def recordListEnd : Reader Unit := do
  match ← peekSolid with
  | none => failNext .endInList
  | some b =>
      if b == byte ']' then skip
      else if b == byte ',' then
        skip
        match ← peekSolid with
        | some b => failNext (if b == byte ']' then .trailingComma else .trailingCharacters)
        | none => failNext .trailingCharacters
      else failNext .trailingCharacters

/-- A field that was read before: blanks, and a closing brace, are taken before the complaint. -/
def repeatedField {α : Type} (name : String) : Reader α := do
  if (← peekSolid) == some (byte '\x7d') then skip
  failHere (.mismatch (.duplicateField name))

mutual

/-- A value of the given shape. -/
def shaped : Nat → Shape → Reader Json
  | 0, _ => failNext .endInValue
  | _ + 1, .flag => shapedFlag
  | _ + 1, .text => return .string (← shapedText "a string")
  | _ + 1, .word words => shapedWord words
  | fuel + 1, .list item => do
      let b ← valueStart
      if b == byte '[' then
        skip
        return .array (← shapedItems fuel item [])
      else unfit "a sequence" b
  | fuel + 1, .texts => do
      let b ← valueStart
      if b == byte '\x7b' then
        skip
        return .object (← shapedTexts fuel true [])
      else unfit "a map" b
  | fuel + 1, .record name fields => do
      let b ← valueStart
      if b == byte '\x7b' then
        skip
        return .object (← shapedFields fuel fields true [])
      else if b == byte '[' then
        skip
        let record := s!"struct {name} with {fields.length} elements"
        return .object (← listedFields fuel record 0 fields [])
      else unfit ("struct " ++ name) b

/-- The items of a list, after those already read (last one first). -/
def shapedItems : Nat → Shape → List Json → Reader (List Json)
  | 0, _, _ => failNext .endInList
  | fuel + 1, item, done => do
      if ← listContinues done.isEmpty then
        let v ← shaped fuel item
        shapedItems fuel item (v :: done)
      else return done.reverse

/-- The fields of a record given by name, after those already read. -/
def shapedFields : Nat → List (String × Bool × Shape) → Bool → List (String × Json) →
    Reader (List (String × Json))
  | 0, _, _, _ => failNext .endInObject
  | fuel + 1, fields, first, done => do
      if ← objectContinues first then
        let name ← stringBody
        match fields.lookup name with
        | some (_, shape) =>
            if (done.lookup name).isSome then repeatedField name
            colon
            let v ← shaped fuel shape
            shapedFields fuel fields false (insertEntry name v done)
        | none =>
            colon
            skipValue (2 * (← remaining) + 2)
            shapedFields fuel fields false done
      else match fields.find? (fun f => f.2.1 && (done.lookup f.1).isNone) with
        | some (name, _) => failHere (.mismatch (.missingField name))
        | none => return done

/-- The fields of a record given one after the other, after the first `count` of them. -/
def listedFields : Nat → String → Nat → List (String × Bool × Shape) → List (String × Json) →
    Reader (List (String × Json))
  | 0, _, _, _, _ => failNext .endInList
  | _ + 1, _, _, [], done => do
      recordListEnd
      return done
  | fuel + 1, record, count, (name, needed, shape) :: fields, done => do
      if ← listContinues (count == 0) then
        let v ← shaped fuel shape
        listedFields fuel record (count + 1) fields (insertEntry name v done)
      else match ((name, needed, shape) :: fields).findIdx? (·.2.1) with
        | some later => failHere (.mismatch (.invalidLength (count + later) record))
        | none => return done

end

end Reader

/-- The value of a text that must have the given shape. -/
def Shape.parse (shape : Shape) (text : String) : Except Fault Json :=
  Reader.run (fun fuel => Reader.shaped (fuel + 1) shape) text

end Flowsmith.Json

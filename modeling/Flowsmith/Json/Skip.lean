import Flowsmith.Json.Parse

/-!
Passing over a value. It must be well-formed, but escapes need not make up characters, numbers may
be of any size, and nesting is not bounded.
-/

namespace Flowsmith.Json.Reader

/-- Pass over an escape after its backslash. -/
def skipEscape : Reader Unit := do
  match ← next with
  | none => failHere .endInString
  | some b =>
      if b == byte 'u' then
        let _ ← hexQuad
      else if (simpleEscape? b).isNone then failHere .invalidEscape

/-- Pass over a string after its opening quote. -/
def skipString : Nat → Reader Unit
  | 0 => failHere .endInString
  | fuel + 1 => do
      match ← peek with
      | none => failHere .endInString
      | some b =>
          if b == byte '"' then skip
          else if b == byte '\\' then do
            skip
            skipEscape
            skipString fuel
          else if b < 32 then failHere .controlCharacter
          else do
            skip
            skipString fuel

/-- Pass over an exponent, when there is one. -/
def skipExponent : Reader Unit := do
  let mark ← peek
  if mark == some (byte 'e') || mark == some (byte 'E') then
    skip
    let sign ← peek
    if sign == some (byte '-') || sign == some (byte '+') then skip
    match (← next).filter isDigit with
    | none => failHere .invalidNumber
    | some _ =>
        let _ ← digits

/-- Pass over a numeral after its sign. -/
def skipNumber : Reader Unit := do
  match (← next).filter isDigit with
  | none => failHere .invalidNumber
  | some b =>
      if b == byte '0' then
        if (← peek).any isDigit then failNext .invalidNumber
      else
        let _ ← digits
  if (← peek) == some (byte '.') then
    skip
    if (← digits).isEmpty then failNext .invalidNumber
  skipExponent

/-- Pass over the name of a field and its colon. -/
def skipName : Reader Unit := do
  match ← peekSolid with
  | none => failNext .endInObject
  | some b =>
      if b == byte '"' then
        skip
        skipString ((← remaining) + 1)
        colon
      else failNext .keyNotString

mutual

/-- Pass over a value. -/
def skipValue : Nat → Reader Unit
  | 0 => failNext .endInValue
  | fuel + 1 => do
      match ← peekSolid with
      | none => failNext .endInValue
      | some b =>
          if b == byte 'n' then
            skip
            word ['u', 'l', 'l']
          else if b == byte 't' then
            skip
            word ['r', 'u', 'e']
          else if b == byte 'f' then
            skip
            word ['a', 'l', 's', 'e']
          else if b == byte '-' then
            skip
            skipNumber
          else if isDigit b then skipNumber
          else if b == byte '"' then
            skip
            skipString ((← remaining) + 1)
          else if b == byte '[' then
            skip
            skipItems fuel true
          else if b == byte '\x7b' then
            skip
            skipFields fuel true
          else failNext .expectedValue

/-- Pass over the items of a list. -/
def skipItems : Nat → Bool → Reader Unit
  | 0, _ => failNext .endInList
  | fuel + 1, first => do
      match ← peekSolid with
      | none => failNext .endInList
      | some b =>
          if b == byte ']' then skip
          else if first then
            skipValue fuel
            skipItems fuel false
          else if b == byte ',' then
            skip
            skipValue fuel
            skipItems fuel false
          else failNext .expectedListEnd

/-- Pass over the fields of an object. -/
def skipFields : Nat → Bool → Reader Unit
  | 0, _ => failNext .endInObject
  | fuel + 1, first => do
      match ← peekSolid with
      | none => failNext .endInObject
      | some b =>
          if b == byte '\x7d' then skip
          else if first then
            skipName
            skipValue fuel
            skipFields fuel false
          else if b == byte ',' then
            skip
            skipName
            skipValue fuel
            skipFields fuel false
          else failNext .expectedObjectEnd

end

end Flowsmith.Json.Reader

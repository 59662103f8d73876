import Flowsmith.Json.Basic
import Flowsmith.Json.Fault
import Flowsmith.Text.Hex
import Flowsmith.Text.Utf8

/-!
The scalar level of JSON text: a cursor over the bytes, and readers of words, numbers and strings. A
reader that fails tells the place it stands at, or the place just after the byte that it looked at.
-/

namespace Flowsmith.Json

/-- The bytes still to be read and the place before them. -/
structure Cursor where
  rest : List UInt8
  position : Position := {}

namespace Cursor

/-- The cursor before a text. -/
def ofString (s : String) : Cursor :=
  { rest := Text.utf8 s }

/-- Move over one byte; at the end stay there. -/
def advance (c : Cursor) : Cursor :=
  match c.rest with
  | [] => c
  | b :: rest =>
      let p := c.position
      ⟨rest, if b == 10 then ⟨p.line + 1, 0⟩ else ⟨p.line, p.column + 1⟩⟩

/-- Whether a byte is one of the four blanks of JSON. -/
def isSpace (b : UInt8) : Bool :=
  b == 32 || b == 9 || b == 10 || b == 13

/-- Move over `count` bytes. -/
def advanceBy : Nat → Cursor → Cursor
  | 0, c => c
  | n + 1, c => advanceBy n c.advance

/-- Move over blanks. -/
def skipSpaces (c : Cursor) : Cursor :=
  advanceBy (c.rest.takeWhile isSpace).length c

end Cursor

/-- A reader takes bytes from the cursor or fails. -/
abbrev Reader := StateT Cursor (Except Fault)

namespace Reader

variable {α : Type}

/-- The byte of an ASCII character. -/
def byte (c : Char) : UInt8 :=
  UInt8.ofNat c.toNat

/-- Whether a byte is a decimal digit. -/
def isDigit (b : UInt8) : Bool :=
  48 ≤ b && b ≤ 57

/-- The next byte, not taken. -/
def peek : Reader (Option UInt8) :=
  return (← get).rest.head?

/-- Move over the next byte. -/
def skip : Reader Unit :=
  modify Cursor.advance

/-- Take the next byte. -/
def next : Reader (Option UInt8) := do
  let b ← peek
  skip
  return b

/-- Move over blanks. -/
def spaces : Reader Unit :=
  modify Cursor.skipSpaces

/-- The next byte that is no blank, not taken. -/
def peekSolid : Reader (Option UInt8) := do
  spaces
  peek

/-- Fail at the place where the cursor stands. -/
def failHere (cause : Cause) : Reader α := do
  throw ⟨cause, (← get).position⟩

/-- Fail at the place just after the next byte. -/
def failNext (cause : Cause) : Reader α := do
  throw ⟨cause, (← get).advance.position⟩

/-- The number of bytes left, which bounds every loop of a reader. -/
def remaining : Reader Nat :=
  return (← get).rest.length

/-- The rest of `true`, `false` or `null`. -/
def word : List Char → Reader Unit
  | [] => pure ()
  | c :: rest => do
      match ← next with
      | none => failHere .endInValue
      | some b => if b == byte c then word rest else failHere .expectedWord

/-- The values of the digits that come next. -/
def digits : Reader (List Nat) := do
  let taken := (← get).rest.takeWhile isDigit
  modify (Cursor.advanceBy taken.length)
  return taken.map (fun b => b.toNat - 48)

/-- The significant digits of a numeral, as long as they fit into sixty-four bits, and the power of
    ten that they are multiplied by. -/
structure Significand where
  value : Nat := 0
  exponent : Int := 0
  full : Bool := false

/-- The greatest number that sixty-four bits hold. -/
def greatestSignificand : Nat := 18446744073709551615

/-- A digit before the point: once a digit did not fit, each further one only raises the power of
    ten. -/
def Significand.whole (s : Significand) (d : Nat) : Significand :=
  if s.full || s.value * 10 + d > greatestSignificand then
    { s with exponent := s.exponent + 1, full := true }
  else { s with value := s.value * 10 + d }

/-- A digit after the point: once a digit did not fit, the others are dropped. -/
def Significand.fraction (s : Significand) (d : Nat) : Significand :=
  if s.full || s.value * 10 + d > greatestSignificand then { s with full := true }
  else { s with value := s.value * 10 + d, exponent := s.exponent - 1 }

/-- The digits before the point. A zero stands alone. -/
def wholeDigits : Reader (List Nat) := do
  match ← next with
  | none => failHere .endInValue
  | some b =>
      if b == byte '0' then
        if (← peek).any isDigit then failNext .invalidNumber else return [0]
      else if isDigit b then return (b.toNat - 48) :: (← digits)
      else failHere .invalidNumber

/-- The digits after the point, at least one, when there is a point. -/
def fractionDigits : Reader (Option (List Nat)) := do
  if (← peek) == some (byte '.') then
    skip
    let ds ← digits
    if ds.isEmpty then
      failNext (if (← peek).isNone then .endInValue else .invalidNumber)
    return some ds
  else return none

/-- The greatest exponent that is told from larger ones. -/
def greatestExponent : Nat := 2147483647

/-- The digits of an exponent after the first; `none` when it passes the greatest one, which is a
    fault if `strict`. -/
def exponentRest (strict : Bool) : Nat → Nat → Reader (Option Nat)
  | 0, e => return some e
  | fuel + 1, e => do
      match (← peek).filter isDigit with
      | none => return some e
      | some b =>
          skip
          let e := e * 10 + (b.toNat - 48)
          if e ≤ greatestExponent then exponentRest strict fuel e
          else if strict then failHere .numberOutOfRange
          else do
            let _ ← digits
            return none

/-- An exponent: its sign and its size, `none` standing for a size beyond the greatest one. -/
structure Exponent where
  negative : Bool
  size : Option Nat

/-- The exponent of a numeral, when there is one; `nonzero` says whether any digit before it
    counts. -/
def exponentPart (nonzero : Bool) : Reader (Option Exponent) := do
  let mark ← peek
  if mark == some (byte 'e') || mark == some (byte 'E') then
    skip
    let sign ← peek
    let negative := sign == some (byte '-')
    if negative || sign == some (byte '+') then skip
    match ← next with
    | none => failHere .endInValue
    | some b =>
        if isDigit b then
          let size ← exponentRest (nonzero && !negative) (← remaining) (b.toNat - 48)
          return some ⟨negative, size⟩
        else failHere .invalidNumber
  else return none

/-- The floating-point number of a significand, scaled by `10 ^ shift` more. -/
def realOf (negative : Bool) (s : Significand) (shift : Int) : Reader Number := do
  match Magnitude.ofDecimal s.value (s.exponent + shift) with
  | some m => return .real ⟨negative, m⟩
  | none => failHere .numberOutOfRange

/-- The integer of a significand, when it has one: from `-2 ^ 63` to `2 ^ 64 - 1`, and no negative
    zero. -/
def integerOf? (negative : Bool) (s : Significand) : Option Int :=
  if s.full then none
  else if !negative then some s.value
  else if 0 < s.value ∧ s.value ≤ 9223372036854775808 then some (-s.value)
  else none

/-- A numeral after its sign. -/
def number (negative : Bool) : Reader Number := do
  let whole := (← wholeDigits).foldl Significand.whole {}
  let fraction ← fractionDigits
  let s := (fraction.getD []).foldl Significand.fraction { whole with full := false }
  match ← exponentPart (s.value != 0) with
  | some ⟨_, none⟩ => return .real ⟨negative, Magnitude.zero⟩
  | some ⟨down, some size⟩ => realOf negative s (if down then -size else size)
  | none =>
      if fraction.isSome then realOf negative s 0
      else match integerOf? negative whole with
        | some n => return .integer n
        | none => realOf negative whole 0

/-- The four hexadecimal digits of an escape. -/
def hexQuad : Reader Nat := do
  match (← get).rest with
  | a :: b :: c :: d :: _ =>
      modify (Cursor.advanceBy 4)
      let value? (x : UInt8) := Text.hexValue? (Char.ofNat x.toNat)
      match value? a, value? b, value? c, value? d with
      | some p, some q, some r, some s => return ((p * 16 + q) * 16 + r) * 16 + s
      | _, _, _, _ => failHere .invalidEscape
  | rest =>
      modify (Cursor.advanceBy rest.length)
      failHere .endInString

/-- The byte that must come next inside an escape. -/
def escapeByte (expected : Char) : Reader Unit := do
  match ← next with
  | none => failHere .endInString
  | some b => if b == byte expected then pure () else failHere .endOfHexEscape

/-- The character of a hexadecimal escape, which for characters beyond the first plane is a pair. -/
def hexEscape : Reader Char := do
  let first ← hexQuad
  if 0xDC00 ≤ first && first ≤ 0xDFFF then failHere .loneSurrogate
  else if 0xD800 ≤ first && first ≤ 0xDBFF then
    escapeByte '\\'
    escapeByte 'u'
    let second ← hexQuad
    if 0xDC00 ≤ second && second ≤ 0xDFFF then
      return Char.ofNat (0x10000 + (first - 0xD800) * 0x400 + (second - 0xDC00))
    else failHere .loneSurrogate
  else return Char.ofNat first

/-- What a backslash and a letter stand for. -/
def simpleEscape? (b : UInt8) : Option Char :=
  if b == byte '"' then some '"'
  else if b == byte '\\' then some '\\'
  else if b == byte '/' then some '/'
  else if b == byte 'b' then some '\x08'
  else if b == byte 'f' then some '\x0c'
  else if b == byte 'n' then some '\n'
  else if b == byte 'r' then some '\r'
  else if b == byte 't' then some '\t'
  else none

/-- An escape after its backslash. -/
def escape : Reader Char := do
  match ← next with
  | none => failHere .endInString
  | some b =>
      if b == byte 'u' then hexEscape
      else match simpleEscape? b with
        | some c => return c
        | none => failHere .invalidEscape

/-- The bytes of a string up to its closing quote, after those already read (last one first). -/
def stringRest : Nat → List UInt8 → Reader (List UInt8)
  | 0, _ => failHere .endInString
  | fuel + 1, done => do
      match ← peek with
      | none => failHere .endInString
      | some b =>
          skip
          if b == byte '"' then return done.reverse
          else if b == byte '\\' then do
            let c ← escape
            stringRest fuel ((Text.utf8 (String.singleton c)).reverse ++ done)
          else if b < 32 then failHere .controlCharacter
          else stringRest fuel (b :: done)

/-- A string after its opening quote. -/
def stringBody : Reader String := do
  let bytes ← stringRest ((← remaining) + 1) []
  match Text.decodeUtf8 bytes with
  | .ok s => return s
  | .error _ => failHere .endInString

end Reader

end Flowsmith.Json

/-!
UTF-8. Decoding stops at the first byte sequence that cannot be part of a character and tells where
it begins and how long it is, or that the input ended inside a character.
-/

namespace Flowsmith.Text

/-- Why bytes are not UTF-8 text. -/
inductive Utf8Fault where
  /-- The `length` bytes from `index` on begin no character. -/
  | invalid (index length : Nat)
  /-- The input ends inside the character that begins at `index`. -/
  | incomplete (index : Nat)
deriving DecidableEq, Repr

/-- The wording of a fault. -/
def Utf8Fault.message : Utf8Fault → String
  | .invalid index length => s!"invalid utf-8 sequence of {length} bytes from index {index}"
  | .incomplete index => s!"incomplete utf-8 byte sequence from index {index}"

/-- A character of several bytes that has been begun: where it begins, how many of its bytes were
    seen, the code point so far, and the ranges that the coming bytes must lie in. -/
structure PartialChar where
  start : Nat
  seen : Nat
  code : Nat
  coming : List (Nat × Nat)

/-- The bytes that may continue a character. -/
def continuation : Nat × Nat := (0x80, 0xBF)

/-- What a lead byte says of the bytes after it; `none` when no character begins with the byte. -/
def leadByte (index n : Nat) : Option PartialChar :=
  if n < 0xC2 then none
  else if n < 0xE0 then some ⟨index, 1, n - 0xC0, [continuation]⟩
  else if n < 0xF0 then
    let second := if n == 0xE0 then (0xA0, 0xBF) else if n == 0xED then (0x80, 0x9F)
      else continuation
    some ⟨index, 1, n - 0xE0, [second, continuation]⟩
  else if n < 0xF5 then
    let second := if n == 0xF0 then (0x90, 0xBF) else if n == 0xF4 then (0x80, 0x8F)
      else continuation
    some ⟨index, 1, n - 0xF0, [second, continuation, continuation]⟩
  else none

/-- Decode the bytes from position `index` on, after the characters `done` (last one first) and with
    the character `begun` still open. -/
def decodeFrom (index : Nat) (begun : Option PartialChar) (done : List Char) :
    List UInt8 → Except Utf8Fault (List Char)
  | [] =>
      match begun with
      | none => .ok done.reverse
      | some p => .error (.incomplete p.start)
  | b :: rest =>
      let n := b.toNat
      match begun with
      | none =>
          if n < 0x80 then decodeFrom (index + 1) none (Char.ofNat n :: done) rest
          else match leadByte index n with
            | none => .error (.invalid index 1)
            | some p => decodeFrom (index + 1) (some p) done rest
      | some p =>
          match p.coming with
          | [] => .error (.invalid p.start p.seen)
          | (low, high) :: later =>
              if low ≤ n && n ≤ high then
                let code := p.code * 64 + (n - 0x80)
                if later.isEmpty then decodeFrom (index + 1) none (Char.ofNat code :: done) rest
                else decodeFrom (index + 1) (some ⟨p.start, p.seen + 1, code, later⟩) done rest
              else .error (.invalid p.start p.seen)

/-- The text that the bytes encode. -/
def decodeUtf8 (bytes : List UInt8) : Except Utf8Fault String :=
  (decodeFrom 0 none [] bytes).map String.ofList

/-- The bytes of a text. -/
def utf8 (s : String) : List UInt8 :=
  s.toUTF8.data.toList

end Flowsmith.Text

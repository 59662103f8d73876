/-!
Bytes as pairs of hexadecimal digits.
-/

namespace Flowsmith.Text

/-- The small hexadecimal digit of a value below sixteen. -/
def hexDigit (n : Nat) : Char :=
  if n < 10 then Char.ofNat (48 + n) else Char.ofNat (87 + n)

/-- The value of a hexadecimal digit of either case. -/
def hexValue? (c : Char) : Option Nat :=
  if '0' ≤ c && c ≤ '9' then some (c.toNat - 48)
  else if 'a' ≤ c && c ≤ 'f' then some (c.toNat - 87)
  else if 'A' ≤ c && c ≤ 'F' then some (c.toNat - 55)
  else none

/-- Two digits for each byte. -/
def hexOfBytes (bytes : List UInt8) : String :=
  String.ofList (bytes.flatMap (fun b => [hexDigit (b.toNat / 16), hexDigit (b.toNat % 16)]))

/-- The bytes of pairs of digits. -/
def bytesOfHexChars : List Char → Option (List UInt8)
  | [] => some []
  | [_] => none
  | a :: b :: rest => do
      let high ← hexValue? a
      let low ← hexValue? b
      let bytes ← bytesOfHexChars rest
      return (UInt8.ofNat (high * 16 + low)) :: bytes

/-- The bytes that a text of hexadecimal digits stands for. -/
def bytesOfHex? (s : String) : Option (List UInt8) :=
  bytesOfHexChars s.toList

end Flowsmith.Text

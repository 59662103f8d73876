import Flowsmith.Text.Hidden

/-!
Quoted text. A text between quotes in which quotes, backslashes and characters that do not show are
escaped. Two forms are written: the one of messages and attributes, and the one of string literals
in token streams, which keeps a NUL apart from an octal digit that follows it.
-/

namespace Flowsmith.Text

/-- The digits of a number in base sixteen, in small letters and without leading zeros. -/
def hexDigits (n : Nat) : List Char :=
  Nat.toDigits 16 n

/-- A character by its code point: a backslash, `u` and the hexadecimal digits in braces. -/
def codePointEscape (c : Char) : List Char :=
  ['\\', 'u', '\x7b'] ++ hexDigits c.toNat ++ ['\x7d']

/-- A character inside quotes. -/
def escapeChar (c : Char) : List Char :=
  if c = '\x00' then ['\\', '0']
  else if c = '\t' then ['\\', 't']
  else if c = '\r' then ['\\', 'r']
  else if c = '\n' then ['\\', 'n']
  else if c = '"' then ['\\', '"']
  else if c = '\\' then ['\\', '\\']
  else if isHidden c then codePointEscape c
  else [c]

/-- The text between quotes. -/
def quoted (s : String) : String :=
  String.ofList ('"' :: s.toList.flatMap escapeChar ++ ['"'])

/-- Whether a character is an octal digit. -/
def isOctal (c : Char) : Bool :=
  '0' ≤ c && c ≤ '7'

/-- The characters of a string literal: as in quoted text, but a NUL before an octal digit takes two
    hexadecimal digits. -/
def literalChars : List Char → List Char
  | [] => []
  | c :: rest =>
      (if c = '\x00' && rest.head?.any isOctal then ['\\', 'x', '0', '0'] else escapeChar c) ++
        literalChars rest

/-- The text as a string literal of a token stream. -/
def literal (s : String) : String :=
  String.ofList ('"' :: literalChars s.toList ++ ['"'])

end Flowsmith.Text

import Flowsmith.Text.Hex
import Flowsmith.Text.Identifier

/-!
Literals in sources: strings, characters, bytes and numbers. Readers of literals tell what follows
the literal, and nothing where none begins or where it is not well-formed. A literal may end in an
identifier, its suffix.
-/

namespace Flowsmith.Source.Literal

/-- What stands between quotes: a text, bytes, or a text that a NUL would end, so that it holds
    none. -/
inductive Content where
  | text
  | bytes
  | terminated
deriving DecidableEq, Repr

/-- Where reading stands between quotes: in plain characters, after a carriage return, inside an
    escape, or among the blanks after an escaped line end. -/
inductive Stage where
  | plain
  | carriageReturn
  | escape
  | hex
  | hexDigit (first : Nat)
  | point
  | pointDigits (value count : Nat)
  | margin
  | marginReturn
deriving DecidableEq, Repr

/-- Whether a character can stand for itself. -/
def Content.allows (content : Content) (c : Char) : Bool :=
  match content with
  | .text => true
  | .bytes => c.toNat < 0x80
  | .terminated => c != '\x00'

/-- Whether two hexadecimal digits can stand for a character. -/
def Content.allowsHex (content : Content) (first second : Nat) : Bool :=
  match content with
  | .text => first < 8
  | .bytes => true
  | .terminated => first != 0 || second != 0

/-- Whether a code point can stand for a character. -/
def Content.allowsPoint (content : Content) (n : Nat) : Bool :=
  (n < 0xD800 || (0xDFFF < n && n < 0x110000)) && (content != .terminated || n != 0)

/-- The stage after a character that stands for itself. -/
def Content.plainStep (content : Content) (c : Char) : Option Stage :=
  if c == '\\' then some .escape
  else if c == '\r' then some .carriageReturn
  else if content.allows c then some .plain
  else none

/-- The stage after a backslash and a character. -/
def Content.escapeStep (content : Content) (c : Char) : Option Stage :=
  if c == 'x' then some .hex
  else if c == 'u' then if content = .bytes then none else some .point
  else if c == '0' then if content = .terminated then none else some .plain
  else if ['n', 'r', 't', '\\', '\x27', '"'].contains c then some .plain
  else if c == '\n' then some .margin
  else if c == '\r' then some .marginReturn
  else none

/-- The stage after one more character of a code point in braces; underscores may stand after the
    first of its at most six digits. -/
def Content.pointStep (content : Content) (value count : Nat) (c : Char) : Option Stage :=
  if c == '_' && count != 0 then some (.pointDigits value count)
  else if c == '\x7d' && count != 0 then if content.allowsPoint value then some .plain else none
  else match Text.hexValue? c with
    | some d => if count < 6 then some (.pointDigits (value * 16 + d) (count + 1)) else none
    | none => none

/-- The stage after one more character. -/
def Content.step (content : Content) (stage : Stage) (c : Char) : Option Stage :=
  match stage with
  | .plain => content.plainStep c
  | .carriageReturn => if c == '\n' then some .plain else none
  | .escape => content.escapeStep c
  | .hex => (Text.hexValue? c).map .hexDigit
  | .hexDigit first =>
      (Text.hexValue? c).bind fun second =>
        if content.allowsHex first second then some .plain else none
  | .point => if c == '\x7b' then some (.pointDigits 0 0) else none
  | .pointDigits value count => content.pointStep value count c
  | .margin =>
      if c == ' ' || c == '\t' || c == '\n' then some .margin
      else if c == '\r' then some .marginReturn
      else content.plainStep c
  | .marginReturn => if c == '\n' then some .margin else none

/-- What follows the closing quote. -/
def quoted? (content : Content) : Stage → List Char → Option (List Char)
  | _, [] => none
  | stage, c :: rest =>
      if c == '"' && (stage = .plain || stage = .margin) then some rest
      else do quoted? content (← content.step stage c) rest

/-- What follows the closing quote and as many number signs, where nothing is escaped. -/
def rawQuoted? (content : Content) (signs : Nat) : List Char → Option (List Char)
  | [] => none
  | '\r' :: '\n' :: rest => rawQuoted? content signs rest
  | '\r' :: _ => none
  | c :: rest =>
      if c == '"' && rest.take signs == List.replicate signs '#' then some (rest.drop signs)
      else if content.allows c then rawQuoted? content signs rest
      else none

/-- The greatest count of number signs before an opening quote. -/
def signLimit : Nat := 255

/-- What follows a string in which nothing is escaped, from the number signs before its opening
    quote on. -/
def raw? (content : Content) (cs : List Char) : Option (List Char) :=
  let signs := (cs.takeWhile (· == '#')).length
  match cs.drop signs with
  | '"' :: rest => if signs ≤ signLimit then rawQuoted? content signs rest else none
  | _ => none

/-- What follows a string. -/
def string? : List Char → Option (List Char)
  | '"' :: rest => quoted? .text .plain rest
  | 'r' :: rest => raw? .text rest
  | 'b' :: '"' :: rest => quoted? .bytes .plain rest
  | 'b' :: 'r' :: rest => raw? .bytes rest
  | 'c' :: '"' :: rest => quoted? .terminated .plain rest
  | 'c' :: 'r' :: rest => raw? .terminated rest
  | _ => none

/-- What follows one escape. A line end cannot be escaped here. -/
def escape? (content : Content) : Stage → List Char → Option (List Char)
  | .plain, rest => some rest
  | .margin, _ => none
  | .marginReturn, _ => none
  | _, [] => none
  | stage, c :: rest => do escape? content (← content.step stage c) rest

/-- What follows a single character and the apostrophe that closes it. -/
def single? (content : Content) (cs : List Char) : Option (List Char) := do
  let rest ← match cs with
    | [] => none
    | '\\' :: rest => escape? content .escape rest
    | c :: rest => if content.allows c then some rest else none
  match rest with
  | '\x27' :: rest => some rest
  | _ => none

/-- What follows a character or a byte. -/
def character? : List Char → Option (List Char)
  | '\x27' :: rest => single? .text rest
  | 'b' :: '\x27' :: rest => single? .bytes rest
  | _ => none

/-- Whether a character can stand among decimal digits. -/
def isDigitOrSpacer (c : Char) : Bool :=
  c.isDigit || c == '_'

/-- What follows an exponent after its mark: at most one sign, before at least one digit. -/
def exponent? (signed valued : Bool) : List Char → Option (List Char)
  | [] => if valued then some [] else none
  | c :: rest =>
      if c.isDigit then exponent? signed true rest
      else if c == '_' then exponent? signed valued rest
      else if valued then some (c :: rest)
      else if (c == '+' || c == '-') && !signed then exponent? true valued rest
      else none

/-- What follows the mark of an exponent, if it comes next. -/
def afterExponentMark? : List Char → Option (List Char)
  | 'e' :: rest => some rest
  | 'E' :: rest => some rest
  | _ => none

/-- What follows a number with a point or an exponent. Neither a second point nor an identifier may
    follow the point; after a fraction, a mark without exponent is no part of the digits. -/
def real? (cs : List Char) : Option (List Char) :=
  if cs.head?.any Char.isDigit then
    match cs.dropWhile isDigitOrSpacer with
    | '.' :: rest =>
        if rest.head?.any (fun c => c == '.' || Text.beginsIdentifier c) then none
        else
          let rest := rest.dropWhile isDigitOrSpacer
          some (((afterExponentMark? rest).bind (exponent? false false)).getD rest)
    | rest => (afterExponentMark? rest).bind (exponent? false false)
  else none

/-- What follows digits to a base, of which there is at least one; `empty` says that none was
    read. -/
def digits? (base : Nat) (empty : Bool) : List Char → Option (List Char)
  | [] => if empty then none else some []
  | c :: rest =>
      if c == '_' then if empty && base == 10 then none else digits? base empty rest
      else if (Text.hexValue? c).any (· < base) then digits? base false rest
      else if c.isDigit || empty then none
      else some (c :: rest)

/-- What follows an integer. -/
def integer? : List Char → Option (List Char)
  | '0' :: 'x' :: rest => digits? 16 true rest
  | '0' :: 'o' :: rest => digits? 8 true rest
  | '0' :: 'b' :: rest => digits? 2 true rest
  | cs => digits? 10 true cs

/-- What follows a suffix, if one comes next. -/
def afterSuffix (cs : List Char) : List Char :=
  match Text.identifier? cs with
  | some (_, rest) => rest
  | none => cs

/-- What follows the suffix of a number, which nothing may go on with. -/
def afterNumber? (cs : List Char) : Option (List Char) :=
  let rest := afterSuffix cs
  if rest.head?.any Text.continuesIdentifier then none else some rest

/-- What follows a literal. -/
def after? (cs : List Char) : Option (List Char) :=
  (string? cs).map afterSuffix <|> (character? cs).map afterSuffix <|>
    (real? cs).bind afterNumber? <|> (integer? cs).bind afterNumber?

/-- The literal that a text begins with, as it is written, and what follows it. -/
def read? (cs : List Char) : Option (String × List Char) := do
  let rest ← after? cs
  return (String.ofList (cs.take (cs.length - rest.length)), rest)

end Flowsmith.Source.Literal

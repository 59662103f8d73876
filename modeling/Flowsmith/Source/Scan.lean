import Flowsmith.Source.Comment
import Flowsmith.Source.Literal
import Flowsmith.Text.Blank

/-!
Reading token streams: words, marks, literals and groups, divided by blanks and comments. A mark is
joined to the next one when nothing stands between them. Brackets must balance.
-/

namespace Flowsmith.Source

/-- What a text falls into before groups are closed. -/
inductive Lexeme where
  | token (t : Token)
  | opening (bracket : Bracket)
  | closing (bracket : Bracket)

namespace Lexeme

/-- Whether a character divides tokens: a blank, or one of the two marks of writing direction. -/
def isDivider (c : Char) : Bool :=
  Text.isBlank c || c == '\u200e' || c == '\u200f'

/-- A bracket, if the character is one. -/
def ofBracket? : Char → Option Lexeme
  | '(' => some (.opening .round)
  | '[' => some (.opening .square)
  | '\x7b' => some (.opening .curly)
  | ')' => some (.closing .round)
  | ']' => some (.closing .square)
  | '\x7d' => some (.closing .curly)
  | _ => none

/-- The characters of marks. -/
def markChars : List Char := "~!@#$%^&*-=+|;:,<.>/?\x27".toList

/-- Whether a text begins with a mark. -/
def startsWithMark (cs : List Char) : Bool :=
  cs.head?.any markChars.contains && !Comment.begins cs

/-- Words that cannot be written with the sign that takes the meaning from a keyword. -/
def unsignedWords : List String := ["_", "super", "self", "Self", "crate"]

/-- The word that a text begins with, and what follows it. It may have a sign before it that takes
    the meaning from a keyword. -/
def word? : List Char → Option (List Char × List Char)
  | 'r' :: '#' :: rest => do
      let (name, rest) ← Text.identifier? rest
      if unsignedWords.contains (String.ofList name) then none
      else return ('r' :: '#' :: name, rest)
  | cs => Text.identifier? cs

/-- How literals begin that could be taken for words. -/
def literalHeads : List (List Char) :=
  ["r\"", "r#\"", "r##", "b\"", "b\x27", "br\"", "br#", "c\"", "cr\"", "cr#"].map String.toList

/-- Whether an apostrophe before a text begins the name of a lifetime: a word that no apostrophe
    closes, and no number sign follows unless the word has a sign. -/
def namesLifetime (cs : List Char) : Bool :=
  match word? cs with
  | none => false
  | some (name, rest) =>
      rest.head? != some '\x27' && (rest.head? != some '#' || ['r', '#'].isPrefixOf name)

/-- The mark that a text begins with, and what follows it. -/
def mark? : List Char → Option (Token × List Char)
  | [] => none
  | c :: rest =>
      if !startsWithMark (c :: rest) then none
      else if c == '\x27' then if namesLifetime rest then some (.mark c true, rest) else none
      else some (.mark c (startsWithMark rest), rest)

/-- The token other than a group that a text begins with, and what follows it. -/
def token? (cs : List Char) : Option (Token × List Char) :=
  (Literal.read? cs).map (fun (text, rest) => (.verbatim text, rest)) <|> mark? cs <|>
    if literalHeads.any (·.isPrefixOf cs) then none
    else (word? cs).map fun (name, rest) => (.word (String.ofList name), rest)

/-- The text that stands in for a source that could not be made. It is one token. -/
def failureText : String := "(/*ERROR*/)"

/-- The lexemes of the first piece of a text, and what follows it. -/
def piece? : List Char → Option (List Lexeme × List Char)
  | [] => none
  | c :: rest =>
      let cs := c :: rest
      if isDivider c then some ([], rest)
      else if Comment.begins cs then
        (Comment.read? cs).map fun (comment, rest) => (comment.tokens.map .token, rest)
      else if failureText.toList.isPrefixOf cs then
        some ([.token (.verbatim failureText)], cs.drop failureText.length)
      else match ofBracket? c with
        | some bracket => some ([bracket], rest)
        | none => (token? cs).map fun (t, rest) => ([.token t], rest)

/-- The lexemes of a text of at most `fuel` pieces. -/
def ofChars : Nat → List Char → Option (List Lexeme)
  | _, [] => some []
  | 0, _ :: _ => none
  | fuel + 1, c :: cs => do
      let (here, rest) ← piece? (c :: cs)
      return here ++ (← ofChars fuel rest)

/-- Close the groups. The groups that are still open are in `outer`, the innermost first, each with
    the tokens before it; `before` are the tokens of the innermost one, the last first. -/
def nest (outer : List (Bracket × List Token)) (before : List Token) :
    List Lexeme → Option (List Token)
  | [] => if outer.isEmpty then some before.reverse else none
  | .token t :: rest => nest outer (t :: before) rest
  | .opening bracket :: rest => nest ((bracket, before) :: outer) [] rest
  | .closing bracket :: rest =>
      match outer with
      | [] => none
      | (opened, left) :: outer =>
          if opened = bracket then nest outer (.group bracket before.reverse :: left) rest
          else none

end Lexeme

/-- A text without the byte order mark that it may begin with. -/
def withoutByteOrderMark : List Char → List Char
  | '\ufeff' :: rest => rest
  | cs => cs

/-- The tokens of a text, if it is well-formed. A text has no more pieces than characters. -/
def scan (s : String) : Option (List Token) := do
  let cs := withoutByteOrderMark s.toList
  Lexeme.nest [] [] (← Lexeme.ofChars cs.length cs)

end Flowsmith.Source

import Flowsmith.Text.Quoted

/-!
Token streams of generated sources, and their text. Tokens are divided by one space, but nothing
follows a mark that is joined to the next one.
-/

namespace Flowsmith.Source

/-- The brackets of a group. -/
inductive Bracket where
  | round
  | square
  | curly
deriving DecidableEq, Repr

/-- A token: a word (identifier, keyword or truth value), a mark, a string literal, a literal that
    is written as it is, or a group between brackets. -/
inductive Token where
  | word (text : String)
  | mark (c : Char) (joint : Bool)
  | literal (value : String)
  | verbatim (text : String)
  | group (bracket : Bracket) (body : List Token)

namespace Token

/-- Whether a token is joined to the next one. -/
def isJoint : Token → Bool
  | .mark _ joint => joint
  | _ => false

/-- What opens a group, and what closes it. Curly brackets stand apart from what is between them. -/
def around (bracket : Bracket) (body : List Char) : List Char :=
  match bracket with
  | .round => '(' :: body ++ [')']
  | .square => '[' :: body ++ [']']
  | .curly => ['\x7b', ' '] ++ body ++ (if body.isEmpty then [] else [' ']) ++ ['\x7d']

mutual

/-- The characters of a token. -/
def chars : Token → List Char
  | .word text => text.toList
  | .mark c _ => [c]
  | .literal value => (Text.literal value).toList
  | .verbatim text => text.toList
  | .group bracket body => around bracket (streamChars body)

/-- The characters of a stream. -/
def streamChars : List Token → List Char
  | [] => []
  | [t] => t.chars
  | t :: u :: rest => t.chars ++ (if t.isJoint then [] else [' ']) ++ streamChars (u :: rest)

end

/-- The text of a stream. -/
def text (tokens : List Token) : String :=
  String.ofList (streamChars tokens)

end Token

/-- Words that follow one another. -/
def words (ws : List String) : List Token :=
  ws.map .word

/-- A mark that stands alone. -/
def mark (c : Char) : Token := .mark c false

/-- A mark of two characters. -/
def marks (c d : Char) : List Token := [.mark c true, .mark d false]

/-- Streams divided by another stream. -/
def separated (divider : List Token) (items : List (List Token)) : List Token :=
  (items.intersperse divider).flatten

/-- A qualified name. -/
def path (segments : List String) : List Token :=
  separated (marks ':' ':') (segments.map fun s => [.word s])

/-- Arguments between round brackets. -/
def arguments (args : List (List Token)) : Token :=
  .group .round (separated [mark ','] args)

/-- A call of a method: a dot, its name and its arguments. -/
def methodCall (name : String) (args : List (List Token)) : List Token :=
  [mark '.', .word name, arguments args]

/-- A string literal by itself. -/
def text (s : String) : List Token := [.literal s]

/-- A truth value by itself. -/
def flag (b : Bool) : List Token := [.word (if b then "true" else "false")]

end Flowsmith.Source

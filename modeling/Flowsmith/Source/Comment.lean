import Flowsmith.Source.Token

/-!
Comments in sources. A comment runs to the end of its line, or from `/*` to the `*/` that belongs to
it, with other such comments inside. Most say nothing; a comment that documents what follows it, or
what it stands in, stands for an attribute with its text.
-/

namespace Flowsmith.Source

/-- A comment: one that says nothing, or one that documents what follows, or what it stands in. -/
inductive Comment where
  | silent
  | documentation (inner : Bool) (text : List Char)

namespace Comment

/-- The line that a text begins with, and what follows from its line feed on. A carriage return
    before the line feed belongs to neither. -/
def line : List Char → List Char × List Char
  | [] => ([], [])
  | '\n' :: rest => ([], '\n' :: rest)
  | '\r' :: '\n' :: rest => ([], '\n' :: rest)
  | c :: rest => (c :: (line rest).1, (line rest).2)

/-- What follows the end of the comment that is `depth` comments deep. -/
def blockEnd? : Nat → List Char → Option (List Char)
  | depth, '/' :: '*' :: rest => blockEnd? (depth + 1) rest
  | depth + 1, '*' :: '/' :: rest => if depth = 0 then some rest else blockEnd? depth rest
  | depth, _ :: rest => blockEnd? depth rest
  | _, [] => none

/-- Whether a carriage return stands without a line feed after it. -/
def hasLoneReturn : List Char → Bool
  | [] => false
  | '\r' :: '\n' :: rest => hasLoneReturn rest
  | '\r' :: _ => true
  | _ :: rest => hasLoneReturn rest

/-- A comment with the given text, which may hold no carriage return by itself. -/
def document? (inner : Bool) (text : List Char) : Option Comment :=
  if hasLoneReturn text then none else some (.documentation inner text)

/-- Whether a text begins with a comment. -/
def begins : List Char → Bool
  | '/' :: '/' :: _ => true
  | '/' :: '*' :: _ => true
  | _ => false

/-- The comment of the rest of a line, after the two slashes: one more slash, but not two, or an
    exclamation mark makes it a documentation. -/
def ofLine? : List Char → Option Comment
  | '/' :: '/' :: _ => some .silent
  | '/' :: text => document? false text
  | '!' :: text => document? true text
  | _ => some .silent

/-- The comment of a block with the given text, told by what follows `/*`: one more star, but not
    two, or an exclamation mark makes it a documentation. -/
def ofBlock? (text : List Char) : List Char → Option Comment
  | '*' :: '*' :: _ => some .silent
  | '*' :: _ => document? false (text.drop 1)
  | '!' :: _ => document? true (text.drop 1)
  | _ => some .silent

/-- The comment that a text begins with, and what follows it. -/
def read? : List Char → Option (Comment × List Char)
  | '/' :: '/' :: rest => do
      let comment ← ofLine? (line rest).1
      return (comment, (line rest).2)
  | '/' :: '*' :: '*' :: '/' :: rest => some (.silent, rest)
  | '/' :: '*' :: rest => do
      let after ← blockEnd? 1 rest
      let comment ← ofBlock? (rest.take (rest.length - after.length - 2)) rest
      return (comment, after)
  | _ => none

/-- The tokens that a comment stands for. -/
def tokens : Comment → List Token
  | .silent => []
  | .documentation inner text =>
      [mark '#'] ++ (if inner then [mark '!'] else []) ++
        [.group .square [.word "doc", mark '=', .literal (String.ofList text)]]

end Comment

end Flowsmith.Source

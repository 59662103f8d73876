/-!
Blank text. A character is blank when it has the White_Space property of Unicode; a text is blank
when all of its characters are, and trimming takes the blanks from both ends.
-/

namespace Flowsmith.Text

/-- The characters with the White_Space property. -/
def isBlank (c : Char) : Bool :=
  let n := c.toNat
  (9 ≤ n && n ≤ 13) || n == 0x20 || n == 0x85 || n == 0xA0 || n == 0x1680 ||
    (0x2000 ≤ n && n ≤ 0x200A) || n == 0x2028 || n == 0x2029 || n == 0x202F || n == 0x205F ||
    n == 0x3000

/-- A text with nothing but blanks in it; the empty text is one. -/
def blank (s : String) : Bool :=
  s.toList.all isBlank

/-- Take the characters that satisfy `p` from both ends. -/
def stripChars (p : Char → Bool) (cs : List Char) : List Char :=
  ((cs.dropWhile p).reverse.dropWhile p).reverse

/-- The text without the blanks at its ends. -/
def trim (s : String) : String :=
  String.ofList (stripChars isBlank s.toList)

end Flowsmith.Text

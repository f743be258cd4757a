/-
# Blank text

The characters that count as white space, and the texts made of nothing else.
-/

namespace ConnectionPooling.Text

/-- White space in the sense of the Unicode property of that name: the ASCII
blanks and line ends, the no-break spaces, the typographic spaces and the two
Unicode separators. -/
def isWhiteSpace (c : Char) : Bool :=
  let n := c.toNat
  (0x09 ≤ n && n ≤ 0x0D) || n == 0x20 || n == 0x85 || n == 0xA0 || n == 0x1680 ||
    (0x2000 ≤ n && n ≤ 0x200A) || n == 0x2028 || n == 0x2029 || n == 0x202F ||
    n == 0x205F || n == 0x3000

/-- A text is blank when trimming white space from both ends leaves nothing,
which is when it holds nothing but white space. -/
def isBlank (text : String) : Bool :=
  text.toList.all isWhiteSpace

end ConnectionPooling.Text

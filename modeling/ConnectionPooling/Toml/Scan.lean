/-
# Scanning TOML

The smallest pieces of a TOML document: blanks, line ends, comments, and the
classes of characters that comments, keys and strings may hold. A scanner takes
a piece off the front of the text and returns it with what is left, or finds
that the text does not begin with such a piece.
-/

namespace ConnectionPooling.Toml

/-- A way to take a piece off the front of a text. -/
abbrev Scanner (α : Type) := List Char → Option (α × List Char)

/-- The blanks inside a line. -/
def isBlank (c : Char) : Bool :=
  c = ' ' || c = '\t'

/-- A character beyond ASCII, which is allowed wherever text is. -/
def isBeyondAscii (c : Char) : Bool :=
  0x80 ≤ c.toNat

/-- What a comment may hold: anything but controls other than the tab. -/
def inComment (c : Char) : Bool :=
  c = '\t' || (0x20 ≤ c.toNat && c.toNat ≤ 0x7E) || isBeyondAscii c

/-- What a key without quotes is made of. -/
def inBareKey (c : Char) : Bool :=
  c.isAlphanum || c = '_' || c = '-'

/-- What stands for itself between double quotes: anything but quotes,
backslashes and controls other than the tab. -/
def inBasicText (c : Char) : Bool :=
  inComment c && c ≠ '\x22' && c ≠ '\\'

/-- What stands for itself between single quotes: anything but these and
controls other than the tab. -/
def inLiteralText (c : Char) : Bool :=
  inComment c && c ≠ '\x27'

/-- The text without the blanks in front. -/
def skipBlanks (cs : List Char) : List Char :=
  cs.dropWhile isBlank

/-- The text behind the line end that it begins with. -/
def lineEnd? : List Char → Option (List Char)
  | '\n' :: rest => some rest
  | '\r' :: '\n' :: rest => some rest
  | _ => none

/-- The text behind a comment, if it begins with one. -/
def skipComment : List Char → List Char
  | '#' :: rest => rest.dropWhile inComment
  | cs => cs

/-- The text behind all that may follow a statement on its line: blanks, a
comment, and the end of the line or of the document. -/
def endOfLine? (cs : List Char) : Option (List Char) :=
  match skipComment (skipBlanks cs) with
  | [] => some []
  | rest => lineEnd? rest

/-- The text behind all blanks, comments and line ends that it begins with.
A comment counts only together with the line end behind it. -/
def skipLines (cs : List Char) : List Char :=
  let here := skipBlanks cs
  match lineEnd? (skipComment here) with
  | none => here
  | some rest => if rest.length < cs.length then skipLines rest else here
termination_by cs.length

/-- The value of a hexadecimal digit. -/
def hexDigit? (c : Char) : Option Nat :=
  if c.isDigit then some (c.toNat - '0'.toNat)
  else if 'a' ≤ c ∧ c ≤ 'f' then some (c.toNat - 'a'.toNat + 10)
  else if 'A' ≤ c ∧ c ≤ 'F' then some (c.toNat - 'A'.toNat + 10)
  else none

/-- The character whose code point is written with hexadecimal digits. The code
points of surrogates are no characters. -/
def codePoint? (digits : List Char) : Option Char := do
  let values ← digits.mapM hexDigit?
  let code := values.foldl (fun n digit => 16 * n + digit) 0
  if code.isValidChar then some (Char.ofNat code) else none

/-- The character that a backslash and a letter stand for. -/
def escape? : Char → Option Char
  | 'b' => some '\x08'
  | 't' => some '\t'
  | 'n' => some '\n'
  | 'f' => some '\x0c'
  | 'r' => some '\r'
  | '\x22' => some '\x22'
  | '\\' => some '\\'
  | _ => none

/-- Put a character in front of what was scanned behind it. -/
def prepend (c : Char) (scanned : Option (List Char × List Char)) :
    Option (List Char × List Char) :=
  scanned.map fun (text, rest) => (c :: text, rest)

/-- The rest of a text between double quotes on one line, behind the first
quote. -/
def basicText : Scanner (List Char)
  | [] => none
  | '\x22' :: rest => some ([], rest)
  | '\\' :: 'u' :: a :: b :: c :: d :: rest => do
      prepend (← codePoint? [a, b, c, d]) (basicText rest)
  | '\\' :: 'U' :: a :: b :: c :: d :: e :: f :: g :: h :: rest => do
      prepend (← codePoint? [a, b, c, d, e, f, g, h]) (basicText rest)
  | '\\' :: c :: rest => do prepend (← escape? c) (basicText rest)
  | c :: rest => if inBasicText c then prepend c (basicText rest) else none

/-- The rest of a text between single quotes on one line, behind the first
quote. -/
def literalText : Scanner (List Char)
  | [] => none
  | '\x27' :: rest => some ([], rest)
  | c :: rest => if inLiteralText c then prepend c (literalText rest) else none

/-- Whether only blanks stand before the end of the line. -/
def isLineEndAhead (cs : List Char) : Bool :=
  (lineEnd? (skipBlanks cs)).isSome

/-- The end of a text over several lines, behind the three quotes that close it:
up to two more quotes belong to the text. -/
def closeQuotes (quote : Char) : List Char → List Char × List Char
  | c :: d :: rest =>
      if c = quote && d = quote then ([quote, quote], rest)
      else if c = quote then ([quote], d :: rest)
      else ([], c :: d :: rest)
  | [c] => if c = quote then ([quote], []) else ([], [c])
  | [] => ([], [])

/-- The rest of a text between three double quotes on either side, behind the
first three. A backslash at the end of a line makes it go on with the next
character that is no blank and no line end; `joining` says that such a character
is being looked for. -/
def longBasicText (joining : Bool) : Scanner (List Char)
  | [] => none
  | '\x22' :: '\x22' :: '\x22' :: rest => some (closeQuotes '\x22' rest)
  | '\\' :: rest =>
      if isLineEndAhead rest then longBasicText true rest
      else match rest with
        | 'u' :: a :: b :: c :: d :: rest => do
            prepend (← codePoint? [a, b, c, d]) (longBasicText false rest)
        | 'U' :: a :: b :: c :: d :: e :: f :: g :: h :: rest => do
            prepend (← codePoint? [a, b, c, d, e, f, g, h]) (longBasicText false rest)
        | c :: rest => do prepend (← escape? c) (longBasicText false rest)
        | [] => none
  | '\r' :: '\n' :: rest =>
      if joining then longBasicText true rest else prepend '\n' (longBasicText false rest)
  | '\n' :: rest =>
      if joining then longBasicText true rest else prepend '\n' (longBasicText false rest)
  | c :: rest =>
      if joining && isBlank c then longBasicText true rest
      else if inBasicText c || c = '\x22' then prepend c (longBasicText false rest)
      else none

/-- The rest of a text between three single quotes on either side, behind the
first three. -/
def longLiteralText : Scanner (List Char)
  | [] => none
  | '\x27' :: '\x27' :: '\x27' :: rest => some (closeQuotes '\x27' rest)
  | '\r' :: '\n' :: rest => prepend '\n' (longLiteralText rest)
  | '\n' :: rest => prepend '\n' (longLiteralText rest)
  | c :: rest =>
      if inLiteralText c || c = '\x27' then prepend c (longLiteralText rest) else none

/-- The text behind a line end, if it begins with one. -/
def skipLineEnd (cs : List Char) : List Char :=
  (lineEnd? cs).getD cs

/-- A text in any of the four notations. A line end directly behind three
opening quotes does not belong to the text. -/
def text? : Scanner String
  | '\x22' :: '\x22' :: '\x22' :: rest =>
      (longBasicText false (skipLineEnd rest)).map fun (cs, rest) => (String.ofList cs, rest)
  | '\x22' :: rest => (basicText rest).map fun (cs, rest) => (String.ofList cs, rest)
  | '\x27' :: '\x27' :: '\x27' :: rest =>
      (longLiteralText (skipLineEnd rest)).map fun (cs, rest) => (String.ofList cs, rest)
  | '\x27' :: rest => (literalText rest).map fun (cs, rest) => (String.ofList cs, rest)
  | _ => none

/-- One part of a key: letters, digits, hyphens and underscores, or a text
between quotes on one line. -/
def keyPart? : Scanner String
  | '\x22' :: rest => (basicText rest).map fun (cs, rest) => (String.ofList cs, rest)
  | '\x27' :: rest => (literalText rest).map fun (cs, rest) => (String.ofList cs, rest)
  | cs =>
      let name := cs.takeWhile inBareKey
      if name.isEmpty then none else some (String.ofList name, cs.dropWhile inBareKey)

/-- The parts of a key behind each other, with dots and any blanks between them.
There are at most `limit` of them. -/
def keyParts? : Nat → Scanner (List String)
  | 0, _ => none
  | limit + 1, cs => do
      let (part, rest) ← keyPart? (skipBlanks cs)
      match skipBlanks rest with
      | '.' :: rest => do
          let (parts, rest) ← keyParts? limit rest
          some (part :: parts, rest)
      | rest => some ([part], rest)

/-- How deep a document may nest. -/
def depthLimit : Nat :=
  79

/-- A key with the blanks around it: the parts before the last one, and the last
one. -/
def key? : Scanner (List String × String) := fun cs => do
  let (parts, rest) ← keyParts? depthLimit cs
  let last ← parts.getLast?
  some ((parts.dropLast, last), rest)

end ConnectionPooling.Toml

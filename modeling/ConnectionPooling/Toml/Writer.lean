/-
# Writing TOML

How keys and values are written. A text is written in the notation that needs
the fewest escapes: between double quotes if nothing in it has to be escaped,
between single quotes if that can hold it, between three quotes if it has line
ends, and with escapes only where nothing else is left.
-/

namespace ConnectionPooling.Toml

/-- A control character that has to be escaped. Tabs need not be, and line ends
are dealt with by the notation. -/
def isEscapedControl (c : Char) : Bool :=
  (c.toNat < 0x20 && c ≠ '\n' && c ≠ '\t') || c.toNat = 0x7F

/-- The length of the longest run of a character, if the text is preceded by a
run of the given length. -/
def longestRun (c : Char) : Nat → List Char → Nat
  | current, [] => current
  | current, d :: rest =>
      if d = c then longestRun c (current + 1) rest
      else max current (longestRun c 0 rest)

/-- What decides how a text is written. -/
structure Shape where
  /-- It holds a control character that has to be escaped. -/
  control : Bool
  backslash : Bool
  lineEnd : Bool
  /-- Its longest run of double quotes. -/
  doubleQuotes : Nat
  /-- Its longest run of single quotes. -/
  singleQuotes : Nat

/-- What decides how a text is written. -/
def shape (cs : List Char) : Shape where
  control := cs.any isEscapedControl
  backslash := cs.contains '\\'
  lineEnd := cs.contains '\n'
  doubleQuotes := longestRun '\x22' 0 cs
  singleQuotes := longestRun '\x27' 0 cs

/-- The notations for a text. -/
inductive Style
  /-- Between double quotes. -/
  | basic
  /-- Between single quotes. -/
  | literal
  /-- Between three double quotes on either side. -/
  | longBasic
  /-- Between three single quotes on either side. -/
  | longLiteral
  deriving DecidableEq

/-- The notation for a text of the given shape. -/
def Shape.style (s : Shape) : Style :=
  if !s.control && !s.backslash && s.doubleQuotes = 0 && !s.lineEnd then .basic
  else if !s.control && s.singleQuotes = 0 && !s.lineEnd then .literal
  else if !s.control && !s.backslash && s.doubleQuotes ≤ 2 then .longBasic
  else if !s.control && s.singleQuotes ≤ 2 then .longLiteral
  else if s.lineEnd then .longBasic
  else .basic

/-- The hexadecimal digits of a number, capital letters included, filled up with
zeros to four. -/
def fourHexDigits (n : Nat) : List Char :=
  let digit := fun k => (Nat.digitChar (n / Nat.pow 16 k % 16)).toUpper
  [digit 3, digit 2, digit 1, digit 0]

/-- A character that is neither a double quote nor a line end, between double
quotes. -/
def escapePlain (c : Char) : List Char :=
  if c = '\x08' then ['\\', 'b']
  else if c = '\t' then ['\\', 't']
  else if c = '\x0c' then ['\\', 'f']
  else if c = '\r' then ['\\', 'r']
  else if c = '\\' then ['\\', '\\']
  else if c.toNat < 0x20 || c.toNat = 0x7F then ['\\', 'u'] ++ fourHexDigits c.toNat
  else [c]

/-- A character between double quotes on one line. -/
def escapeBasic (c : Char) : List Char :=
  if c = '\x22' then ['\\', '\x22']
  else if c = '\n' then ['\\', 'n']
  else escapePlain c

/-- A text between three double quotes, behind a run of `quotes` double quotes
that were not escaped. Every third quote of a run is escaped, so that no three
stand together. -/
def escapeLong : Nat → List Char → List Char
  | _, [] => []
  | quotes, c :: rest =>
      if c = '\x22' then
        if quotes = 2 then '\\' :: '\x22' :: escapeLong 0 rest
        else '\x22' :: escapeLong (quotes + 1) rest
      else if c = '\n' then '\n' :: escapeLong 0 rest
      else escapePlain c ++ escapeLong 0 rest

/-- The line end behind three opening quotes: a text with line ends begins on a
line of its own. -/
def opening (cs : List Char) : List Char :=
  if cs.contains '\n' then ['\n'] else []

/-- A text in a notation. -/
def writeStyled (cs : List Char) : Style → List Char
  | .basic => '\x22' :: cs.flatMap escapeBasic ++ ['\x22']
  | .literal => '\x27' :: cs ++ ['\x27']
  | .longBasic =>
      ['\x22', '\x22', '\x22'] ++ opening cs ++ escapeLong 0 cs ++ ['\x22', '\x22', '\x22']
  | .longLiteral =>
      ['\x27', '\x27', '\x27'] ++ opening cs ++ cs ++ ['\x27', '\x27', '\x27']

/-- A text as a value. -/
def writeText (text : String) : List Char :=
  let cs := text.toList
  writeStyled cs (shape cs).style

/-- The notation for a key of the given shape that needs quotes. Keys are written
on one line. -/
def Shape.keyStyle (s : Shape) : Style :=
  let control := s.control || s.lineEnd
  if !control && !s.backslash && s.doubleQuotes = 0 then .basic
  else if !control && s.singleQuotes = 0 then .literal
  else .basic

/-- Whether a key can be written without quotes. -/
def isBareKey (cs : List Char) : Bool :=
  !cs.isEmpty && cs.all fun c => c.isAlphanum || c = '_' || c = '-'

/-- A key. -/
def writeKey (name : String) : List Char :=
  let cs := name.toList
  if isBareKey cs then cs else writeStyled cs (shape cs).keyStyle

/-- An assignment on a line of its own. -/
def writeAssignment (name : String) (value : List Char) : List Char :=
  writeKey name ++ [' ', '=', ' '] ++ value ++ ['\n']

end ConnectionPooling.Toml

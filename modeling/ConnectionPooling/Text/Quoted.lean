/-
# Quoted text

A text between double quotes, in the form in which it is shown to a person who
inspects a value: quotes and backslashes are escaped, the common controls have
short escapes, and any other character that is not printable is written as its
code point in hexadecimal.
-/

import ConnectionPooling.Text.Printable

namespace ConnectionPooling.Text

/-- One character inside a quoted text. -/
def quoteChar (c : Char) : List Char :=
  if c = '\x22' then ['\\', '\x22']
  else if c = '\\' then ['\\', '\\']
  else if c = '\n' then ['\\', 'n']
  else if c = '\r' then ['\\', 'r']
  else if c = '\t' then ['\\', 't']
  else if c.toNat = 0 then ['\\', '0']
  else if isPrintable c then [c]
  else ['\\', 'u', '\x7b'] ++ Nat.toDigits 16 c.toNat ++ ['\x7d']

/-- A text between double quotes. -/
def quoted (text : String) : String :=
  String.ofList ('\x22' :: text.toList.flatMap quoteChar ++ ['\x22'])

end ConnectionPooling.Text

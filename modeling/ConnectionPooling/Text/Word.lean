/-
# Numbers in texts

Reading an unsigned 64-bit word that is written in decimal digits.
-/

namespace ConnectionPooling.Text

/-- The number that a text stands for: decimal digits, at least one, perhaps with
a plus sign in front, and a value that fits into 64 bits. -/
def readWord (text : String) : Option Nat :=
  let digits := match text.toList with
    | '+' :: rest => rest
    | cs => cs
  if !digits.isEmpty && digits.all Char.isDigit then
    let value := digits.foldl (fun n c => 10 * n + (c.toNat - '0'.toNat)) 0
    if value < UInt64.size then some value else none
  else none

end ConnectionPooling.Text

/-
# Numbers in TOML

Whole numbers in four bases, which must fit into a signed 64-bit word, and
floating-point numbers. Digits may be grouped by underscores, each between two
digits. Of a floating-point number only its form is checked, and that it does
not round to infinity from above.
-/

import ConnectionPooling.Toml.Scan
import ConnectionPooling.Document.Value

namespace ConnectionPooling.Toml

open Document (Value)

/-- Further digits of a run, without the underscores between them. -/
def moreDigits (isDigit : Char → Bool) : Scanner (List Char)
  | [] => some ([], [])
  | '_' :: c :: rest => if isDigit c then prepend c (moreDigits isDigit rest) else none
  | c :: rest =>
      if isDigit c then prepend c (moreDigits isDigit rest)
      else if c = '_' then none
      else some ([], c :: rest)

/-- A run of digits that is not empty. -/
def digits? (isDigit : Char → Bool) : Scanner (List Char)
  | [] => none
  | c :: rest => if isDigit c then prepend c (moreDigits isDigit rest) else none

/-- A sign in front of a number: whether it is a minus, and the rest. -/
def sign : List Char → Bool × List Char
  | '-' :: rest => (true, rest)
  | '+' :: rest => (false, rest)
  | cs => (false, cs)

/-- The digits of a decimal whole number: a single zero, or a run that does not
begin with one. -/
def decimalDigits? : Scanner (List Char)
  | '0' :: rest => some (['0'], rest)
  | cs => digits? Char.isDigit cs

/-- The number that is written with digits in a base. -/
def natOfDigits (base : Nat) (digits : List Char) : Nat :=
  digits.foldl (fun n c => base * n + (hexDigit? c).getD 0) 0

/-- A whole number as a value, if it fits into a signed 64-bit word. -/
def word? (negative : Bool) (size : Nat) : Option Value :=
  if negative then
    if size ≤ Nat.pow 2 63 then some (.int (-(size : Int))) else none
  else
    if size < Nat.pow 2 63 then some (.int size) else none

/-- A whole number in a base other than ten, behind the mark of the base. -/
def basedInt? (base : Nat) (isDigit : Char → Bool) : Scanner Value := fun cs => do
  let (digits, rest) ← digits? isDigit cs
  let value ← word? false (natOfDigits base digits)
  some (value, rest)

/-- The exponent of a floating-point number, if there is one: zero otherwise. -/
def exponent? : Scanner (Option Int)
  | c :: rest =>
      if c = 'e' || c = 'E' then do
        let (negative, rest) := sign rest
        let (digits, rest) ← digits? Char.isDigit rest
        let size : Int := natOfDigits 10 digits
        some (some (if negative then -size else size), rest)
      else some (none, c :: rest)
  | [] => some (none, [])

/-- The digits behind the point of a floating-point number, if there is one. -/
def fraction? : Scanner (Option (List Char))
  | '.' :: rest => do
      let (digits, rest) ← digits? Char.isDigit rest
      some (some digits, rest)
  | cs => some (none, cs)

/-- Whether a number with the given digits, times ten to the given power, lies so
far out that it rounds to infinity as a 64-bit floating-point number: from half a
step beyond the greatest finite one on. -/
def overflows (digits : List Char) (power : Int) : Bool :=
  let significant := digits.dropWhile (· = '0')
  let places := (significant.length : Int) + power
  let limit := Nat.pow 2 1024 - Nat.pow 2 970
  if significant.isEmpty || places < 309 then false
  else if 309 < places then true
  else
    let size := natOfDigits 10 significant
    if 0 ≤ power then limit ≤ size * Nat.pow 10 power.toNat
    else limit * Nat.pow 10 (-power).toNat ≤ size

/-- A decimal number, whole or not. -/
def decimal? : Scanner Value := fun cs => do
  let (negative, cs) := sign cs
  let (whole, rest) ← decimalDigits? cs
  let (decimals, rest) ← fraction? rest
  let (power, rest) ← exponent? rest
  match decimals, power with
  | none, none =>
      let value ← word? negative (natOfDigits 10 whole)
      some (value, rest)
  | decimals, power =>
      let behind := decimals.getD []
      if !negative && overflows (whole ++ behind) (power.getD 0 - behind.length) then none
      else some (.real, rest)

/-- One of the two numbers that are written as words. -/
def namedNumber? : Scanner Value
  | 'i' :: 'n' :: 'f' :: rest => some (.real, rest)
  | 'n' :: 'a' :: 'n' :: rest => some (.real, rest)
  | _ => none

/-- A number in any notation. -/
def number? : Scanner Value := fun cs =>
  match cs with
  | '0' :: 'x' :: rest => basedInt? 16 (fun c => (hexDigit? c).isSome) rest
  | '0' :: 'o' :: rest => basedInt? 8 (fun c => '0' ≤ c && c ≤ '7') rest
  | '0' :: 'b' :: rest => basedInt? 2 (fun c => c = '0' || c = '1') rest
  | cs =>
      match namedNumber? (sign cs).2 with
      | some named => some named
      | none => decimal? cs

end ConnectionPooling.Toml

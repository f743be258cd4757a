/-
# Dates and times in TOML

A date, a time of day, or a date with a time of day and perhaps the distance
from universal time. No part of a configuration is a date, so a moment is kept
as a table with its text under a name of its own: where a table of texts is
asked for, it is one. The text is the plainest one for that moment, whatever way
it was written.
-/

import ConnectionPooling.Toml.Number

namespace ConnectionPooling.Toml

open Document (Value)

/-- A number written with exactly so many digits, within bounds. -/
def fixed? (width low high : Nat) : Scanner Nat := fun cs =>
  let digits := cs.take width
  if digits.length = width && digits.all Char.isDigit then
    let n := natOfDigits 10 digits
    if low ≤ n && n ≤ high then some (n, cs.drop width) else none
  else none

/-- The text behind a character that must come next. -/
def expect? (c : Char) : List Char → Option (List Char)
  | d :: rest => if d = c then some rest else none
  | [] => none

/-- How many days a month has. -/
def daysInMonth (year month : Nat) : Nat :=
  if month = 2 then
    if year % 4 = 0 && (year % 100 ≠ 0 || year % 400 = 0) then 29 else 28
  else if month = 4 || month = 6 || month = 9 || month = 11 then 30
  else 31

/-- A number with zeros in front, so that it has at least the given width. -/
def zeroFilled (width n : Nat) : String :=
  let digits := toString n
  String.ofList (List.replicate (width - digits.length) '0') ++ digits

/-- A date, as its text. -/
def date? : Scanner String := fun cs => do
  let (year, rest) ← fixed? 4 0 9999 cs
  let rest ← expect? '-' rest
  let (month, rest) ← fixed? 2 1 12 rest
  let rest ← expect? '-' rest
  let (day, rest) ← fixed? 2 1 (daysInMonth year month) rest
  some (zeroFilled 4 year ++ "-" ++ zeroFilled 2 month ++ "-" ++ zeroFilled 2 day, rest)

/-- The part of a second behind the point, as its text: nine digits at most, and
none at the end that says nothing. -/
def secondFraction? : Scanner String
  | '.' :: rest =>
      let digits := rest.takeWhile Char.isDigit
      let kept := ((digits.take 9).reverse.dropWhile (· = '0')).reverse
      if digits.isEmpty then none
      else
        some (if kept.isEmpty then "" else "." ++ String.ofList kept,
          rest.dropWhile Char.isDigit)
  | cs => some ("", cs)

/-- A time of day, as its text. A minute may have a leap second. -/
def time? : Scanner String := fun cs => do
  let (hour, rest) ← fixed? 2 0 23 cs
  let rest ← expect? ':' rest
  let (minute, rest) ← fixed? 2 0 59 rest
  let rest ← expect? ':' rest
  let (second, rest) ← fixed? 2 0 60 rest
  let (fraction, rest) ← secondFraction? rest
  some (zeroFilled 2 hour ++ ":" ++ zeroFilled 2 minute ++ ":" ++ zeroFilled 2 second ++
    fraction, rest)

/-- The distance from universal time, as its text; none need be given. -/
def offset? : Scanner String := fun cs =>
  match cs with
  | [] => some ("", [])
  | c :: rest =>
      if c = 'Z' || c = 'z' then some ("Z", rest)
      else if c = '+' || c = '-' then do
        let (hours, rest) ← fixed? 2 0 23 rest
        let rest ← expect? ':' rest
        let (minutes, rest) ← fixed? 2 0 59 rest
        let direction := if c = '-' && (hours ≠ 0 || minutes ≠ 0) then "-" else "+"
        some (direction ++ zeroFilled 2 hours ++ ":" ++ zeroFilled 2 minutes, rest)
      else some ("", c :: rest)

/-- A moment as a value. -/
def momentValue (text : String) : Value :=
  .table [("$__toml_private_datetime", .text text)]

/-- Whether the text begins like a date: four digits and a hyphen. -/
def looksLikeDate (cs : List Char) : Bool :=
  (cs.take 4).all Char.isDigit && (cs.drop 4).head? == some '-'

/-- Whether the text begins like a time of day: two digits and a colon. -/
def looksLikeTime (cs : List Char) : Bool :=
  (cs.take 2).all Char.isDigit && (cs.drop 2).head? == some ':'

/-- What follows a date in a moment: nothing, or a time of day with or without a
distance. A blank behind a date may also just end it. -/
def timeOfDate? : Scanner String := fun cs =>
  match cs with
  | [] => some ("", [])
  | c :: rest =>
      if c = 'T' || c = 't' || (c = ' ' && looksLikeTime rest) then do
        let (time, rest) ← time? rest
        let (offset, rest) ← offset? rest
        some ("T" ++ time ++ offset, rest)
      else some ("", c :: rest)

/-- A moment in any notation. -/
def moment? : Scanner Value := fun cs =>
  if looksLikeDate cs then do
    let (date, rest) ← date? cs
    let (time, rest) ← timeOfDate? rest
    some (momentValue (date ++ time), rest)
  else do
    let (time, rest) ← time? cs
    some (momentValue time, rest)

end ConnectionPooling.Toml

/-
# Time

Clock readings and lengths of time, both counted in whole nanoseconds. All
arithmetic on them is exact; only a figure that is reported to a reader is cut
to whole milliseconds or microseconds and kept in one 64-bit word.
-/

namespace ConnectionPooling

/-- A length of time in whole nanoseconds. -/
abbrev Duration := Nat

/-- A reading of the clock, in nanoseconds since the clock started. -/
abbrev Instant := Nat

namespace Duration

/-- The nanoseconds in one millisecond. -/
def perMilli : Nat := 1000000

/-- The nanoseconds in one microsecond. -/
def perMicro : Nat := 1000

/-- The nanoseconds in one second. -/
def perSecond : Nat := 1000000000

/-- A length of time given in milliseconds. -/
def ofMillis (count : Nat) : Duration :=
  count * perMilli

/-- A length of time given in microseconds. -/
def ofMicros (count : Nat) : Duration :=
  count * perMicro

/-- The whole milliseconds of a length of time, as a report shows them: one
64-bit word, so that lengths beyond its range wrap around. -/
def reportedMillis (d : Duration) : Nat :=
  d / perMilli % UInt64.size

/-- The whole microseconds of a length of time, as a report shows them. -/
def reportedMicros (d : Duration) : Nat :=
  d / perMicro % UInt64.size

/-- The digits of `value`, filled up with zeros on the left to `width`. -/
def padded (width value : Nat) : List Char :=
  let digits := (toString value).toList
  List.replicate (width - digits.length) '0' ++ digits

/-- A length of time as a count of one unit of `10 ^ places` nanoseconds: the
whole units, and after a point only as many decimal places as are needed. -/
def inUnits (places : Nat) (unit : String) (d : Duration) : String :=
  let whole := toString (d / Nat.pow 10 places)
  let decimals := (padded places (d % Nat.pow 10 places)).reverse.dropWhile (· = '0') |>.reverse
  if decimals.isEmpty then whole ++ unit
  else whole ++ "." ++ String.ofList decimals ++ unit

/-- The text of a length of time in the largest unit, among seconds,
milliseconds, microseconds and nanoseconds, of which it holds at least one
whole: twenty seconds are `20s`, fifteen hundred milliseconds `1.5s`, nothing
at all `0ns`. -/
def render (d : Duration) : String :=
  if perSecond ≤ d then inUnits 9 "s" d
  else if perMilli ≤ d then inUnits 6 "ms" d
  else if perMicro ≤ d then inUnits 3 "µs" d
  else toString d ++ "ns"

end Duration

end ConnectionPooling

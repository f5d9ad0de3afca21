import SqlCompose.Calendar.Write
/-!
# Spans of time

A span of time to the nanosecond, written in the largest unit of which it has at least
one: seconds, milliseconds, microseconds or nanoseconds, with a fraction if there is a
rest.
-/

namespace SqlCompose

/-- A span of time. -/
structure Duration where
  nanos : Nat
deriving DecidableEq

namespace Duration

/-- A span of milliseconds. -/
def ofMillis (ms : Nat) : Duration := ⟨ms * 1000000⟩

/-- The whole milliseconds of a span. -/
def millis (d : Duration) : Nat := d.nanos / 1000000

/-- Digits without the zeros at their end. -/
def dropTrailingZeros (cs : List Char) : List Char :=
  (cs.reverse.dropWhile (· == '0')).reverse

/-- A span counted in a unit of `10 ^ places` nanoseconds. -/
def writeIn (places : Nat) (unit : String) (d : Duration) : String :=
  let rest := d.nanos % Nat.pow 10 places
  let fraction := dropTrailingZeros (padded places rest).toList
  toString (d.nanos / Nat.pow 10 places) ++
    (if rest = 0 then "" else "." ++ String.ofList fraction) ++ unit

/-- The text of a span of time. -/
def write (d : Duration) : String :=
  if 1000000000 ≤ d.nanos then d.writeIn 9 "s"
  else if 1000000 ≤ d.nanos then d.writeIn 6 "ms"
  else if 1000 ≤ d.nanos then d.writeIn 3 "µs"
  else d.writeIn 0 "ns"

end Duration

end SqlCompose

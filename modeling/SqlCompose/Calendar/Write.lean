import SqlCompose.Calendar.Basic
/-!
# Texts of dates and times

Dates are written `year-month-day` and times `hour:minute:second` with no, three, six
or nine digits of fraction, as few as show every digit that is not zero. A year
outside 0 to 9999 has a sign, and a leap second is second 60.
-/

namespace SqlCompose

/-- A number with zeros in front up to a width. -/
def padded (width n : Nat) : String :=
  let ds := Nat.toDigits 10 n
  String.ofList (List.replicate (width - ds.length) '0' ++ ds)

namespace Date

/-- The text of a year: four digits, with a sign if they do not suffice. -/
def writeYear (year : Int) : String :=
  if 0 ≤ year ∧ year ≤ 9999 then padded 4 year.toNat
  else (if year < 0 then "-" else "+") ++ padded 4 year.natAbs

/-- The text of a date. -/
def write (d : Date) : String :=
  writeYear d.year ++ "-" ++ padded 2 d.month ++ "-" ++ padded 2 d.day

end Date

namespace TimeOfDay

/-- The fraction of a second, with its point; nothing for a whole second. -/
def writeFraction (nano : Nat) : String :=
  if nano = 0 then ""
  else if nano % 1000000 = 0 then "." ++ padded 3 (nano / 1000000)
  else if nano % 1000 = 0 then "." ++ padded 6 (nano / 1000)
  else "." ++ padded 9 nano

/-- The text of a time of day. -/
def write (t : TimeOfDay) : String :=
  let leap := 1000000000 ≤ t.nano
  let second := if leap then t.second + 1 else t.second
  let nano := if leap then t.nano - 1000000000 else t.nano
  padded 2 t.hour ++ ":" ++ padded 2 t.minute ++ ":" ++ padded 2 second ++ writeFraction nano

end TimeOfDay

namespace DateTime

/-- Date and time with a separator between them. -/
def write (separator : String) (t : DateTime) : String :=
  t.date.write ++ separator ++ t.time.write

end DateTime

end SqlCompose

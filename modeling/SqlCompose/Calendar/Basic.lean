/-!
# Dates and times of day

Dates of the proleptic Gregorian calendar, times of day to the nanosecond, and their
combination. A leap second is a time whose nanoseconds run on past one second, which
only the last second of a minute may do.

`Date.toDays` counts days from the first of January 2000 and `Date.ofDays?` is its
inverse; `DateTime.toNanos` and `DateTime.ofMicros?` do the same for moments.
-/

namespace SqlCompose

/-- Whether a year has a 29th of February. -/
def isLeapYear (year : Int) : Bool :=
  year % 4 == 0 && (year % 100 != 0 || year % 400 == 0)

/-- The number of days in a month of a year. -/
def daysInMonth (year : Int) (month : Nat) : Nat :=
  if month = 2 then (if isLeapYear year then 29 else 28)
  else if month = 4 ∨ month = 6 ∨ month = 9 ∨ month = 11 then 30
  else 31

/-- A date of the proleptic Gregorian calendar. -/
structure Date where
  /-- The year; the year before 1 is 0. -/
  year : Int
  /-- The month, from 1. -/
  month : Nat
  /-- The day of the month, from 1. -/
  day : Nat
  year_range : -262143 ≤ year ∧ year ≤ 262142
  month_range : 1 ≤ month ∧ month ≤ 12
  day_range : 1 ≤ day ∧ day ≤ daysInMonth year month
deriving DecidableEq

/-- A time of day. -/
structure TimeOfDay where
  hour : Nat
  minute : Nat
  second : Nat
  /-- Nanoseconds of the second; a leap second has from 10⁹ on. -/
  nano : Nat
  hour_lt : hour < 24
  minute_lt : minute < 60
  second_lt : second < 60
  nano_lt : nano < 2000000000
  leap : 1000000000 ≤ nano → second = 59
deriving DecidableEq

/-- A date and a time of day. -/
structure DateTime where
  date : Date
  time : TimeOfDay
deriving DecidableEq

namespace Date

/-- The date of the given year, month and day, if there is one. -/
def of? (year : Int) (month day : Nat) : Option Date :=
  if h : (-262143 ≤ year ∧ year ≤ 262142) ∧ (1 ≤ month ∧ month ≤ 12) ∧
      (1 ≤ day ∧ day ≤ daysInMonth year month) then
    some ⟨year, month, day, h.1, h.2.1, h.2.2⟩
  else none

/-- Days from the first of January 2000 to a date. Years are counted from March, so
that a leap day is the last day of its year. -/
def toDays (d : Date) : Int :=
  let y : Int := if d.month ≤ 2 then d.year - 1 else d.year
  let era := y / 400
  let yearOfEra := y % 400
  let dayOfYear : Int := (153 * ((d.month + 9 : Int) % 12) + 2) / 5 + d.day - 1
  let dayOfEra := yearOfEra * 365 + yearOfEra / 4 - yearOfEra / 100 + dayOfYear
  era * 146097 + dayOfEra - 730425

/-- The date a number of days after the first of January 2000, if it is in range. -/
def ofDays? (days : Int) : Option Date :=
  let z := days + 730425
  let era := z / 146097
  let dayOfEra := z % 146097
  let yearOfEra := (dayOfEra - dayOfEra / 1460 + dayOfEra / 36524 - dayOfEra / 146096) / 365
  let dayOfYear := dayOfEra - (365 * yearOfEra + yearOfEra / 4 - yearOfEra / 100)
  let shifted := (5 * dayOfYear + 2) / 153
  let day := dayOfYear - (153 * shifted + 2) / 5 + 1
  let month := if shifted < 10 then shifted + 3 else shifted - 9
  let year := yearOfEra + era * 400 + if month ≤ 2 then 1 else 0
  of? year month.toNat day.toNat

end Date

namespace TimeOfDay

/-- The time of day of the given parts, if there is one. -/
def of? (hour minute second nano : Nat) : Option TimeOfDay :=
  if h : hour < 24 ∧ minute < 60 ∧ second < 60 ∧ nano < 2000000000 ∧
      (1000000000 ≤ nano → second = 59) then
    some ⟨hour, minute, second, nano, h.1, h.2.1, h.2.2.1, h.2.2.2.1, h.2.2.2.2⟩
  else none

/-- Nanoseconds since midnight. -/
def toNanos (t : TimeOfDay) : Nat :=
  ((t.hour * 60 + t.minute) * 60 + t.second) * 1000000000 + t.nano

/-- The time of day a number of microseconds after midnight; whole days are dropped. -/
def ofMicros (micros : Int) : TimeOfDay :=
  let n := (micros % 86400000000).toNat
  let s := n / 1000000 % 86400
  { hour := s / 3600 % 24, minute := s / 60 % 60, second := s % 60,
    nano := n % 1000000 * 1000
    hour_lt := by omega, minute_lt := by omega, second_lt := by omega, nano_lt := by omega,
    leap := by omega }

end TimeOfDay

namespace DateTime

/-- Nanoseconds from the start of the year 2000 to a moment. -/
def toNanos (t : DateTime) : Int :=
  t.date.toDays * 86400000000000 + t.time.toNanos

/-- Microseconds from the start of the year 2000 to a moment, without the rest. -/
def toMicros (t : DateTime) : Int :=
  t.toNanos.tdiv 1000

/-- The moment a number of microseconds after the start of the year 2000, if it is in
range. -/
def ofMicros? (micros : Int) : Option DateTime :=
  (Date.ofDays? (micros / 86400000000)).map fun date => ⟨date, TimeOfDay.ofMicros micros⟩

/-- A moment moved back by a number of minutes; the seconds stay as they are. -/
def minusMinutes? (t : DateTime) (minutes : Int) : Option DateTime := do
  let total : Int := t.time.hour * 60 + t.time.minute - minutes
  let date ← Date.ofDays? (t.date.toDays + total / 1440)
  let ofDay := (total % 1440).toNat
  let time ← TimeOfDay.of? (ofDay / 60) (ofDay % 60) t.time.second t.time.nano
  some ⟨date, time⟩

end DateTime

end SqlCompose

import SqlCompose.Calendar.Basic
import SqlCompose.Number.Read
import SqlCompose.Text.Blank
/-!
# Reading dates and times

Dates `year-month-day` and times `hour:minute:second` with a fraction of any length, of
which nine digits count. Blanks may stand in front of every number and separator. A
year has at most four digits unless it has a sign. Second 60 is a leap second.

A moment with a time zone ends in `Z`, `UTC` or an offset of hours and minutes, and is
read as the same moment in UTC.
-/

namespace SqlCompose

/-- Up to `width` digits, at least one, as a number, and the rest of the text. -/
def takeNumber? (width : Nat) (cs : List Char) : Option (Nat × List Char) :=
  let ds := (cs.take width).takeWhile Char.isDigit
  if ds.isEmpty then none else some (digitsValue ds, cs.drop ds.length)

/-- A number with blanks in front. -/
def takePadded? (width : Nat) (cs : List Char) : Option (Nat × List Char) :=
  takeNumber? width (Text.trimStartChars cs)

/-- A separator with blanks in front; what remains is the text behind it. -/
def takeMark? (mark : Char) (cs : List Char) : Option (List Char) :=
  match Text.trimStartChars cs with
  | c :: rest => if c = mark then some rest else none
  | [] => none

/-- A year, and the rest of the text. -/
def takeYear? (cs : List Char) : Option (Int × List Char) :=
  match Text.trimStartChars cs with
  | '-' :: rest => (takeNumber? rest.length rest).map fun r => (-(r.1 : Int), r.2)
  | '+' :: rest => (takeNumber? rest.length rest).map fun r => ((r.1 : Int), r.2)
  | rest => (takeNumber? 4 rest).map fun r => ((r.1 : Int), r.2)

/-- A date, and the rest of the text. -/
def takeDate? (cs : List Char) : Option (Date × List Char) := do
  let (year, cs) ← takeYear? cs
  let cs ← takeMark? '-' cs
  let (month, cs) ← takePadded? 2 cs
  let cs ← takeMark? '-' cs
  let (day, cs) ← takePadded? 2 cs
  let date ← Date.of? year month day
  some (date, cs)

/-- Hour and minute, and the rest of the text. -/
def takeHourMinute? (cs : List Char) : Option (Nat × Nat × List Char) := do
  let (hour, cs) ← takePadded? 2 cs
  let cs ← takeMark? ':' cs
  let (minute, cs) ← takePadded? 2 cs
  some (hour, minute, cs)

/-- A fraction of a second in nanoseconds, zero if there is no point. -/
def takeFraction? : List Char → Option (Nat × List Char)
  | '.' :: cs => do
    let (n, rest) ← takeNumber? 9 cs
    some (n * Nat.pow 10 (9 - (cs.length - rest.length)), rest.dropWhile Char.isDigit)
  | cs => some (0, cs)

/-- Second and nanosecond, and the rest of the text. -/
def takeSecond? (cs : List Char) : Option (Nat × Nat × List Char) := do
  let cs ← takeMark? ':' cs
  let (second, cs) ← takePadded? 2 cs
  let (nano, cs) ← takeFraction? cs
  if second ≤ 60 then some (second, nano, cs) else none

/-- The time of day of parts in which second 60 is a leap second. -/
def timeOfParts? (hour minute second nano : Nat) : Option TimeOfDay :=
  if second = 60 then TimeOfDay.of? hour minute 59 (nano + 1000000000)
  else TimeOfDay.of? hour minute second nano

/-- A time of day with its seconds, and the rest of the text. -/
def takeTime? (cs : List Char) : Option (TimeOfDay × List Char) := do
  let (hour, minute, cs) ← takeHourMinute? cs
  let (second, nano, cs) ← takeSecond? cs
  let time ← timeOfParts? hour minute second nano
  some (time, cs)

/-- Two digits in front of a text. -/
def takeTwoDigits? : List Char → Option (Nat × List Char)
  | a :: b :: cs => if a.isDigit && b.isDigit then some (digitsValue [a, b], cs) else none
  | _ => none

/-- The distance of a time zone from UTC in minutes, and the rest of the text: `Z`,
`UTC`, or a sign, two digits of hours and two of minutes with colons or blanks between
them. -/
def takeOffset? (cs : List Char) : Option (Int × List Char) := do
  if (cs.take 3).map Char.toLower = ['u', 't', 'c'] then some (0, cs.drop 3)
  else
    match cs with
    | [] => none
    | c :: rest =>
      if c = 'Z' ∨ c = 'z' then some (0, rest)
      else if c = '+' ∨ c = '-' ∨ c = '\u2212' then
        let (hours, rest) ← takeTwoDigits? rest
        let (minutes, rest) ← takeTwoDigits? (rest.dropWhile fun c => c = ':' || Text.isBlank c)
        if hours < 24 ∧ minutes < 60 then
          let distance : Int := hours * 60 + minutes
          some (if c = '+' then distance else -distance, rest)
        else none
      else none

/-- The value of a reader that leaves nothing but blanks. -/
def onlyBlankAfter? {α : Type} (r : α × List Char) : Option α :=
  if (Text.trimStartChars r.2).isEmpty then some r.1 else none

/-- The date that a text spells. -/
def Date.read? (cs : List Char) : Option Date :=
  (takeDate? cs).bind onlyBlankAfter?

/-- The time of day that a text spells; the seconds may be missing. -/
def TimeOfDay.read? (cs : List Char) : Option TimeOfDay := do
  let (hour, minute, cs) ← takeHourMinute? cs
  let (second, nano, rest) := (takeSecond? cs).getD (0, 0, cs)
  let time ← timeOfParts? hour minute second nano
  onlyBlankAfter? (time, rest)

/-- The date and time that a text spells, with `T` between them. -/
def DateTime.read? (cs : List Char) : Option DateTime := do
  let (date, cs) ← takeDate? cs
  let cs ← takeMark? 'T' cs
  let (time, cs) ← takeTime? cs
  onlyBlankAfter? (⟨date, time⟩, cs)

/-- The moment in UTC that a text with a time zone spells, with `T`, `t` or a blank
between date and time. -/
def DateTime.readZoned? (cs : List Char) : Option DateTime := do
  let (date, cs) ← takeDate? cs
  match cs with
  | c :: cs =>
    if c = 'T' ∨ c = 't' ∨ c = ' ' then
      let (time, cs) ← takeTime? cs
      let (offset, cs) ← takeOffset? (Text.trimStartChars cs)
      let moment ← onlyBlankAfter? ((⟨date, time⟩ : DateTime), cs)
      moment.minusMinutes? offset
    else none
  | [] => none

end SqlCompose

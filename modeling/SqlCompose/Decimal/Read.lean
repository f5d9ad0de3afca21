import SqlCompose.Decimal.Basic
import SqlCompose.Number.Read
/-!
# Reading exact decimals

A decimal in text is a sign, which may be missing, and digits with at most one point,
with underscores allowed behind the first digit. Behind the point the digits may be more
than the mantissa or the 28 places have room for: the first that is left over rounds the
decimal, halves away from zero, and nothing but digits and underscores may follow.

Behind an `e` or `E` stands an exponent, which moves the point of the decimal in front.
-/

namespace SqlCompose.Decimal

/-- The digits of a decimal read so far. -/
structure Reading where
  /-- The digits as a number. -/
  digits : Nat := 0
  /-- The number of digits behind the point. -/
  places : Nat := 0
  /-- Whether the point has been read. -/
  point : Bool := false
  /-- Whether a digit has been read. -/
  started : Bool := false

/-- The decimal of a sign and the digits read. -/
def Reading.finish (neg : Bool) (r : Reading) : Option Decimal :=
  if r.started then of? (if neg then -(r.digits : Int) else r.digits) r.places else none

/-- The reading with one more in its last place. A mantissa that this makes too large
loses that place. -/
def Reading.roundedUp (r : Reading) : Reading :=
  if r.digits + 1 < Nat.pow 2 96 ∨ r.places = 0 then { r with digits := r.digits + 1 }
  else { r with digits := roundHalfUp (r.digits + 1) 10, places := r.places - 1 }

/-- Whether the digits in front of the last one are so few that 64 bits hold all of them
with room to spare. -/
def Reading.isShort (r : Reading) : Bool := r.digits / 10 < Nat.pow 2 64 / 10 - 255

/-- The decimal of a reading that has no room for the digits among `cs`. Underscores in
front of the digit that rounds are passed over, but in a short reading one of them takes
its place and nothing is added. -/
def Reading.roundOff (neg : Bool) (r : Reading) (cs : List Char) : Option Decimal :=
  if !cs.all (fun c => c.isDigit || c == '_') then none
  else
    let next := if r.isShort then cs.head? else cs.find? Char.isDigit
    let up := next.any fun c => c.isDigit && 5 ≤ digitValue c
    (if up then r.roundedUp else r).finish neg

/-- Reads digits, point and underscores up to the end of the text, or up to the first
character without room. -/
def readUnsigned (neg : Bool) (r : Reading) : List Char → Option Decimal
  | [] => r.finish neg
  | c :: cs =>
    if r.point && 28 ≤ r.places then r.roundOff neg (c :: cs)
    else if c.isDigit then
      let digits := 10 * r.digits + digitValue c
      if digits < Nat.pow 2 96 then
        readUnsigned neg
          { r with digits, places := r.places + (if r.point then 1 else 0), started := true } cs
      else if r.point then r.roundOff neg (c :: cs)
      else none
    else if c == '.' && !r.point then readUnsigned neg { r with point := true } cs
    else if c == '_' && r.started then readUnsigned neg r cs
    else none

/-- The decimal that a text without exponent spells. -/
def readPlain? (cs : List Char) : Option Decimal :=
  let (neg, body) := takeSign cs
  readUnsigned neg {} body

/-- The exponent of a decimal: whether it is negative, and its size. One plus may stand
in front of the digits, behind the minus too. -/
def readExponent? (cs : List Char) : Option (Bool × Nat) :=
  let (neg, body) :=
    match cs with
    | '-' :: rest => (true, rest)
    | _ => (false, cs)
  let ds := match body with
    | '+' :: rest => rest
    | _ => body
  if ds.isEmpty || !ds.all Char.isDigit then none else some (neg, digitsValue ds)

/-- The decimal that a text spells, with or without exponent. -/
def read? (cs : List Char) : Option Decimal := do
  let isMark (c : Char) : Bool := c == 'e' || c == 'E'
  let base ← readPlain? (cs.takeWhile (!isMark ·))
  match cs.dropWhile (!isMark ·) with
  | [] => some base
  | _ :: tail =>
    let (neg, exponent) ← readExponent? tail
    if neg then base.shiftRight? exponent else base.shiftLeft? exponent

end SqlCompose.Decimal

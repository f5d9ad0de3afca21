import SqlCompose.Decimal.Basic
/-!
# Exact decimals and floating-point numbers

The two conversions between `Decimal` and `Binary64`.

A decimal becomes a floating-point number part by part: the whole part and the
fraction are rounded on their own, added, and the sum is rounded to the decimal's
places once more (`Decimal.toBinary64`).

A floating-point number `m · 2 ^ q` that is an integer by its exponent becomes that
integer, if 96 bits can hold it. Another becomes a decimal by a change of base within
96 bits (`Decimal.ofBinary64?`): factors of one half are traded for factors of a fifth
and a tenth one at a time, and where there is no room the mantissa loses its last bit or
place. At the end digits beyond what 52 bits can tell apart are rounded away, and so are
zeros behind the point.
-/

namespace SqlCompose.Decimal

/-- The double-precision number nearest to a fraction, as a fraction. -/
def rounded (r : Nat × Nat) : Nat × Nat :=
  (Binary64.nearest false r.1 r.2).ratio

/-- The floating-point number of a decimal. -/
def toBinary64 (d : Decimal) : Binary64 :=
  let neg := d.mantissa < 0
  let m := d.mantissa.natAbs
  if d.scale = 0 then Binary64.nearest neg m 1
  else
    let unit := Nat.pow 10 d.scale
    let whole := rounded (m / unit, 1)
    let rest := rounded (m % unit, 1)
    if rest.1 = 0 then Binary64.nearest neg whole.1 whole.2
    else
      let places := rounded (unit, 1)
      let fraction := rounded (rest.1 * places.2, rest.2 * places.1)
      let sum := rounded (whole.1 * fraction.2 + fraction.1 * whole.2, whole.2 * fraction.2)
      let scaled := rounded (sum.1 * places.1, sum.2 * places.2)
      let units := roundHalfUp scaled.1 scaled.2
      Binary64.nearest neg (units * places.2) places.1

/-- `k` factors of one half traded for factors of a fifth and a tenth: an even mantissa
is halved, an odd one multiplied by five, or halved with loss where five times it has
no room. -/
def tradeHalves : Nat → Nat → Int → Nat × Int
  | 0, m, e => (m, e)
  | k + 1, m, e =>
    if m % 2 = 0 then tradeHalves k (m / 2) (e + 1)
    else if 5 * m < Nat.pow 2 96 then tradeHalves k (5 * m) e
    else tradeHalves k (m / 2) (e + 1)

/-- At most `k` places rounded away, one after the other, ending at zero when nothing
but a last place is left. -/
def dropPlaces : Nat → Nat → Int → Nat × Int
  | 0, m, e => (m, e)
  | k + 1, m, e => if m / 10 = 0 then (0, 0) else dropPlaces k (roundHalfUp m 10) (e + 1)

/-- Places behind the point rounded away until the mantissa has at most 52 bits; `k` is
the number of places. -/
def dropExcess : Nat → Nat → Nat × Nat
  | 0, m => (m, 0)
  | k + 1, m => if Nat.pow 2 52 ≤ m then dropExcess k (roundHalfUp m 10) else (m, k + 1)

/-- Zeros behind the point taken away; `k` is the number of places. -/
def dropZeros : Nat → Nat → Nat × Nat
  | 0, m => (m, 0)
  | k + 1, m => if m % 10 = 0 then dropZeros k (m / 10) else (m, k + 1)

/-- The decimal that stands for a floating-point number, unless the number is infinite,
not a number or too large. -/
def ofBinary64? (x : Binary64) : Option Decimal :=
  let signed (m : Nat) : Int := if x.negative then -(m : Int) else m
  if !x.isFinite then none
  else if x.significand = 0 then some zero
  else if 0 ≤ x.exponent then
    if x.exponent < 96 then of? (signed (x.significand * Nat.pow 2 x.exponent.toNat)) 0 else none
  else
    let (m, e) := tradeHalves (-x.exponent).toNat x.significand x.exponent
    let (m, e) := dropPlaces (-28 - e).toNat m e
    let (m, places) := dropExcess (-e).toNat m
    let (m, places) := dropZeros places m
    of? (signed m) places

end SqlCompose.Decimal

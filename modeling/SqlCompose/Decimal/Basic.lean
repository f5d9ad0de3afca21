import SqlCompose.Number.Binary64
/-!
# Exact decimals

A `Decimal` is `mantissa / 10 ^ scale` with a mantissa of at most 96 bits and at most
28 decimal places. The scale is part of the value: `1.50` and `1.5` are the same
number and different decimals.
-/

namespace SqlCompose

/-- An exact decimal number with its number of places. -/
structure Decimal where
  /-- The number counted in units of the last place. -/
  mantissa : Int
  /-- The number of decimal places. -/
  scale : Nat
  mantissa_lt : mantissa.natAbs < Nat.pow 2 96
  scale_le : scale ≤ 28
deriving DecidableEq

namespace Decimal

/-- A decimal of the given mantissa and scale, if both are in range. -/
def of? (mantissa : Int) (scale : Nat) : Option Decimal :=
  if h : mantissa.natAbs < Nat.pow 2 96 ∧ scale ≤ 28 then some ⟨mantissa, scale, h.1, h.2⟩
  else none

/-- Zero without decimal places. -/
def zero : Decimal := ⟨0, 0, by decide, by decide⟩

/-- A 64-bit integer as a decimal. -/
def ofInt64 (n : Int64) : Decimal := (of? n.toInt 0).getD zero

/-- The decimal divided by `10 ^ k`, for at most 28 places `k`. Where that takes more than
28 places the last ones are rounded away, halves away from zero. -/
def shiftRight? (d : Decimal) (k : Nat) : Option Decimal :=
  if 28 < k then none
  else
    let m : Int := roundHalfUp d.mantissa.natAbs (Nat.pow 10 (d.scale + k - 28))
    of? (if d.mantissa < 0 then -m else m) (min (d.scale + k) 28)

/-- The decimal multiplied by `10 ^ k`: places are taken away and, when there are none
left, the mantissa grows, for which `k` may be at most 28. -/
def shiftLeft? (d : Decimal) (k : Nat) : Option Decimal :=
  if k ≤ d.scale then of? d.mantissa (d.scale - k)
  else if 28 < k then none
  else of? (d.mantissa * Nat.pow 10 (k - d.scale)) 0

/-- Whether two decimals are the same number. -/
def numEq (a b : Decimal) : Bool :=
  a.mantissa * Nat.pow 10 b.scale == b.mantissa * Nat.pow 10 a.scale

/-- The integer that a decimal is, if it is one. -/
def toInt? (d : Decimal) : Option Int :=
  let unit := Nat.pow 10 d.scale
  if d.mantissa % unit = 0 then some (d.mantissa / unit) else none

/-- A decimal written with all its places. -/
def write (d : Decimal) : String :=
  let ds := Nat.toDigits 10 d.mantissa.natAbs
  let padded := List.replicate (d.scale + 1 - ds.length) '0' ++ ds
  let whole := padded.take (padded.length - d.scale)
  let fraction := padded.drop (padded.length - d.scale)
  (if d.mantissa < 0 then "-" else "") ++
    String.ofList (whole ++ if d.scale = 0 then [] else '.' :: fraction)

end Decimal

end SqlCompose

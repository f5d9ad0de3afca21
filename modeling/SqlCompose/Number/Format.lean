/-!
# Binary floating-point formats

A format is fixed by the number of its significand bits, the exponent of its
smallest unit and the number of its finite exponent fields. `FloatFormat.nearest`
is the bit pattern of the number nearest to a fraction, ties going to the even
significand; every conversion into a binary format is an instance of it.
-/

namespace SqlCompose

/-- The quotient `num / den` rounded to the nearest integer, ties to even. -/
def roundHalfEven (num den : Nat) : Nat :=
  let q := num / den
  let r := num % den
  if 2 * r < den then q
  else if den < 2 * r then q + 1
  else if q % 2 = 0 then q else q + 1

/-- The quotient `num / den` rounded to the nearest integer, ties upwards. -/
def roundHalfUp (num den : Nat) : Nat := (2 * num + den) / (2 * den)

/-- The greatest `k` with `2 ^ k ≤ num / den`, for a positive fraction. -/
def floorLog2 (num den : Nat) : Int :=
  let k : Int := (num.log2 : Int) - den.log2
  let fits := if 0 ≤ k then den * Nat.pow 2 k.toNat ≤ num else den ≤ num * Nat.pow 2 (-k).toNat
  if fits then k else k - 1

/-- A binary floating-point format. -/
structure FloatFormat where
  /-- Bits of the significand, the hidden one included. -/
  precision : Nat
  /-- Exponent of two of the unit in which the smallest numbers are counted. -/
  lowest : Int
  /-- Number of exponent fields that stand for finite numbers. -/
  fields : Nat

namespace FloatFormat

/-- The double-precision format. -/
def binary64 : FloatFormat := ⟨53, -1074, 2047⟩

/-- The single-precision format. -/
def binary32 : FloatFormat := ⟨24, -149, 255⟩

/-- Width of the stored fraction. -/
def fractionBits (f : FloatFormat) : Nat := f.precision - 1

/-- The bit pattern of positive infinity. -/
def infinity (f : FloatFormat) : Nat := f.fields * Nat.pow 2 f.fractionBits

/-- The bit pattern of a quiet not-a-number. -/
def quietNaN (f : FloatFormat) : Nat := f.infinity + Nat.pow 2 (f.fractionBits - 1)

/-- The sign bit, as the number that it adds to a bit pattern. -/
def signBit (f : FloatFormat) : Nat := (f.fields + 1) * Nat.pow 2 f.fractionBits

/-- The bit pattern of the number nearest to `num / den`, ties to even; infinity
where the fraction is too large. Consecutive patterns are consecutive numbers, so a
significand that rounds up past its width carries into the exponent by itself. -/
def nearest (f : FloatFormat) (num den : Nat) : Nat :=
  if num = 0 then 0
  else
    let q : Int := max (floorLog2 num den - f.fractionBits) f.lowest
    let m :=
      if 0 ≤ q then roundHalfEven num (den * Nat.pow 2 q.toNat)
      else roundHalfEven (num * Nat.pow 2 (-q).toNat) den
    min ((q - f.lowest).toNat * Nat.pow 2 f.fractionBits + m) f.infinity

/-- The number `(m, q)`, standing for `m · 2 ^ q`, that a finite bit pattern without
its sign denotes. -/
def parts (f : FloatFormat) (pattern : Nat) : Nat × Int :=
  let field := pattern / Nat.pow 2 f.fractionBits
  let fraction := pattern % Nat.pow 2 f.fractionBits
  if field = 0 then (fraction, f.lowest)
  else (fraction + Nat.pow 2 f.fractionBits, f.lowest + (field - 1))

end FloatFormat

/-- The fraction `m · 2 ^ q` as numerator and denominator. -/
def scaledRatio (m : Nat) (q : Int) : Nat × Nat :=
  if 0 ≤ q then (m * Nat.pow 2 q.toNat, 1) else (m, Nat.pow 2 (-q).toNat)

end SqlCompose

import SqlCompose.Number.Format
/-!
# Double-precision numbers

`Binary64` is a double-precision number, held as its bits, so that equal bits mean
equal values and nothing about a number is hidden from a proof. A finite number is
`significand · 2 ^ exponent` with a sign; the conversions here are exact where the
target can hold the number and round to nearest otherwise.
-/

namespace SqlCompose

/-- A double-precision floating-point number, by its bits. -/
structure Binary64 where
  /-- Sign, exponent field and fraction, from the top bit down. -/
  bits : UInt64
deriving DecidableEq

namespace Binary64

/-- Whether the sign bit is set. -/
def negative (x : Binary64) : Bool := FloatFormat.binary64.signBit ≤ x.bits.toNat

/-- The bits without the sign. -/
def pattern (x : Binary64) : Nat := x.bits.toNat % FloatFormat.binary64.signBit

/-- Whether `x` is not a number. -/
def isNaN (x : Binary64) : Bool := FloatFormat.binary64.infinity < x.pattern

/-- Whether `x` is one of the two infinities. -/
def isInfinite (x : Binary64) : Bool := x.pattern == FloatFormat.binary64.infinity

/-- Whether `x` is a number other than the infinities. -/
def isFinite (x : Binary64) : Bool := x.pattern < FloatFormat.binary64.infinity

/-- The integer `m` of a finite number `±m · 2 ^ q`. -/
def significand (x : Binary64) : Nat := (FloatFormat.binary64.parts x.pattern).1

/-- The exponent `q` of a finite number `±m · 2 ^ q`. -/
def exponent (x : Binary64) : Int := (FloatFormat.binary64.parts x.pattern).2

/-- The absolute value of a finite number as a fraction. -/
def ratio (x : Binary64) : Nat × Nat := scaledRatio x.significand x.exponent

/-- A sign and a bit pattern put together. -/
def ofPattern (neg : Bool) (pattern : Nat) : Binary64 :=
  ⟨UInt64.ofNat (pattern + if neg then FloatFormat.binary64.signBit else 0)⟩

/-- The number nearest to `± num / den`, ties to even. -/
def nearest (neg : Bool) (num den : Nat) : Binary64 :=
  ofPattern neg (FloatFormat.binary64.nearest num den)

/-- Not a number. -/
def nan : Binary64 := ofPattern false FloatFormat.binary64.quietNaN

/-- The infinity of a sign. -/
def infinite (neg : Bool) : Binary64 := ofPattern neg FloatFormat.binary64.infinity

/-- The zero of a sign. -/
def zero (neg : Bool) : Binary64 := ofPattern neg 0

/-- The number nearest to an integer. -/
def ofInt (n : Int) : Binary64 := nearest (n < 0) n.natAbs 1

/-- The number with the sign changed. -/
def neg (x : Binary64) : Binary64 := ofPattern (!x.negative) x.pattern

/-- Equality of numbers: the two zeros are equal, and not-a-number differs from
everything. -/
def numEq (x y : Binary64) : Bool :=
  !x.isNaN && !y.isNaN && (x == y || (x.pattern == 0 && y.pattern == 0))

/-- The product of two finite numbers, rounded to nearest. -/
def mul (x y : Binary64) : Binary64 :=
  nearest (x.negative != y.negative) (x.ratio.1 * y.ratio.1) (x.ratio.2 * y.ratio.2)

/-- The quotient of two finite numbers, the second not zero, rounded to nearest. -/
def div (x y : Binary64) : Binary64 :=
  nearest (x.negative != y.negative) (x.ratio.1 * y.ratio.2) (x.ratio.2 * y.ratio.1)

/-- Whether a finite number has no fractional part. -/
def isIntegral (x : Binary64) : Bool :=
  x.isFinite && x.ratio.1 % x.ratio.2 == 0

/-- A finite number with its fractional part cut off. -/
def truncate (x : Binary64) : Int :=
  let n : Int := (x.ratio.1 / x.ratio.2 : Nat)
  if x.negative then -n else n

/-- The bits of the nearest single-precision number. -/
def toBinary32Bits (x : Binary64) : Nat :=
  let f := FloatFormat.binary32
  let magnitude :=
    if x.isNaN then f.quietNaN
    else if x.isInfinite then f.infinity
    else f.nearest x.ratio.1 x.ratio.2
  magnitude + if x.negative then f.signBit else 0

/-- The number that single-precision bits stand for. Every single-precision number is
a double-precision one. -/
def ofBinary32Bits (bits : Nat) : Binary64 :=
  let f := FloatFormat.binary32
  let neg := f.signBit ≤ bits
  let pattern := bits % f.signBit
  if f.infinity < pattern then nan
  else if pattern = f.infinity then infinite neg
  else
    let r := scaledRatio (f.parts pattern).1 (f.parts pattern).2
    nearest neg r.1 r.2

end Binary64

end SqlCompose

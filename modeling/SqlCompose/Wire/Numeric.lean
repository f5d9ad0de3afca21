import SqlCompose.Decimal.Basic
import SqlCompose.Number.BigEndian
/-!
# Exact numbers on the wire

A `Numeric` is a number as a backend sends it: groups of four decimal digits with the
place of the first group, a sign, and the number of decimal places that are shown.

A decimal is written with the groups that its digits and places fill; groups of zeros
behind the point are left out, unless the number is below one (`Numeric.ofDecimal`).
What is read may have more digits than a decimal holds, and is rounded while its groups
are added up and once more to the places that are shown (`Numeric.toDecimal?`).
-/

namespace SqlCompose

/-- A number in groups of four decimal digits. -/
structure Numeric where
  /-- The first group counts multiples of `10000 ^ weight`. -/
  weight : Int
  negative : Bool
  /-- The number of decimal places that are shown. -/
  places : Nat
  groups : List Nat
deriving DecidableEq

namespace Numeric

/-- A number in groups of four digits, without a leading group of zeros. -/
def groupsOf (n : Nat) : List Nat :=
  if n = 0 then [] else groupsOf (n / 10000) ++ [n % 10000]
termination_by n
decreasing_by omega

/-- Groups without the zeros at their end. -/
def dropTrailingZeros (groups : List Nat) : List Nat :=
  (groups.reverse.dropWhile (· = 0)).reverse

/-- A decimal in groups. -/
def ofDecimal (d : Decimal) : Numeric :=
  if d.mantissa = 0 then ⟨0, false, 0, []⟩
  else
    let behind := (d.scale + 3) / 4
    let groups := groupsOf (d.mantissa.natAbs * Nat.pow 10 (4 * behind - d.scale))
    let whole := groups.length - behind
    let shown :=
      if whole = 0 then groups
      else groups.take whole ++ dropTrailingZeros (groups.drop whole)
    ⟨(groups.length : Int) - behind - 1, d.mantissa < 0, d.scale, shown⟩

/-- The number that the groups stand for without their place. -/
def groupsValue (groups : List Nat) : Nat :=
  groups.foldl (fun n g => n * 10000 + g) 0

/-! ### Reading

A number that is read is added up group by group, and each sum is brought to the places
for which a decimal has room before the next group is added. Sums are held in units of
the 28th decimal place.
-/

/-- The mantissa and the number of places of a number of units: as many places as 96 bits
have room for, and no more than `places`. -/
def fit? (round : Nat → Nat → Nat) (places units : Nat) : Option (Nat × Nat) :=
  (List.range (places + 1)).reverse.findSome? fun p =>
    let m := round units (Nat.pow 10 (28 - p))
    if m < Nat.pow 2 96 then some (m, p) else none

/-- A number of units rounded to the nearest that is a decimal, halves to the even
digit. -/
def settle? (units : Nat) : Option Nat :=
  (fit? roundHalfEven 28 units).map fun (m, places) => m * Nat.pow 10 (28 - places)

/-- The number of groups in front of the point, those that are left out among them. -/
def wholeGroups (n : Numeric) : Nat := (n.weight + 1).toNat

/-- The whole part. Groups that are left out in front of the point are zeros. Seven of them
is what a decimal has room for, and more are refused whatever stands in front of them. -/
def whole? (n : Numeric) : Option Nat :=
  let missing := n.wholeGroups - n.groups.length
  if 7 < missing then none
  else
    let m := groupsValue (n.groups.take n.wholeGroups) * Nat.pow 10000 missing
    if m < Nat.pow 2 96 then some m else none

/-- The units of a group whose last digit is the given decimal place. A group just behind
the 28th place counts one unit or none by its first digit, and those behind it nothing. -/
def groupUnits (place group : Nat) : Nat :=
  if place ≤ 28 then group * Nat.pow 10 (28 - place)
  else if place = 32 ∧ 5000 ≤ group then 1
  else 0

/-- The units of the groups behind the point. -/
def fraction (n : Numeric) : List Nat :=
  let skipped := (-n.weight - 1).toNat
  (n.groups.drop n.wholeGroups).mapIdx fun i group => groupUnits (4 * (skipped + i + 1)) group

/-- The decimal of a number, if it is not too large. It has the places that are shown, or
as many as there is room for; places that are not shown are rounded away, halves away
from zero. -/
def toDecimal? (n : Numeric) : Option Decimal := do
  let whole ← n.whole?
  let units ← n.fraction.foldlM (fun sum part => settle? (sum + part)) (whole * Nat.pow 10 28)
  let (m, places) ← fit? roundHalfUp (min n.places 28) units
  Decimal.of? (if n.negative then -(m : Int) else m) places

/-- The bytes of a number: the number of groups, the weight, the sign, the places and
the groups, two bytes each. -/
def write (n : Numeric) : List UInt8 :=
  bigEndian 2 n.groups.length ++ signedBytes 2 n.weight ++
    bigEndian 2 (if n.negative then 0x4000 else 0) ++ bigEndian 2 n.places ++
    n.groups.flatMap (bigEndian 2)

/-- Bytes in pairs as numbers; a last odd byte is passed over. -/
def pairs : List UInt8 → List Nat
  | a :: b :: rest => ofBigEndian [a, b] :: pairs rest
  | _ => []

/-- The number that bytes begin with. The two top bits of the sign mark what is infinite
or not a number, and that is refused. -/
def read? (bytes : List UInt8) : Option Numeric :=
  match pairs bytes with
  | count :: _ :: sign :: places :: rest =>
    if rest.length < count ∨ 0xC000 ≤ sign then none
    else some ⟨ofSignedBytes ((bytes.drop 2).take 2), sign = 0x4000, places, rest.take count⟩
  | _ => none

end Numeric

end SqlCompose

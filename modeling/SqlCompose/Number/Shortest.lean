import SqlCompose.Number.Binary64
/-!
# Shortest decimal digits

The fewest decimal digits that read back as a given double-precision number.

The reals that round to a finite number form an interval around it, whose ends
belong to it when the significand is even. `Binary64.shortest` takes the decimal
grids of one, two, … digits and, on each, the two neighbours of the number; the
first grid with a neighbour inside the interval gives the digits, the closer
neighbour winning. A tie between the two is broken as the caller says.
-/

namespace SqlCompose

/-- Which of two equally close decimals is taken. -/
inductive Tie
  /-- The one with the even last digit. -/
  | even
  /-- The larger one. -/
  | up
deriving DecidableEq

/-- A positive decimal number `digits · 10 ^ exponent`. -/
structure DecimalDigits where
  /-- The digits as a number. -/
  digits : Nat
  /-- The power of ten of the last digit. -/
  exponent : Int
deriving DecidableEq

/-- Number of decimal digits; zero has none. -/
def digitCount (n : Nat) : Nat :=
  if n = 0 then 0 else (Nat.toDigits 10 n).length

/-- The least `k` with `num / den < 10 ^ k`, for a positive fraction. -/
def magnitude10 (num den : Nat) : Int :=
  if den ≤ num then digitCount (num / den)
  else 1 - (digitCount ((den + num - 1) / num - 1) : Int)

/-- The end `n · 2 ^ q` of an interval compared with `d · 10 ^ e`: whether it lies
below or at the decimal. -/
def leDecimal (n : Nat) (q : Int) (d : Nat) (e : Int) : Bool :=
  n * Nat.pow 2 q.toNat * Nat.pow 10 (-e).toNat ≤ d * Nat.pow 10 e.toNat * Nat.pow 2 (-q).toNat

/-- The decimal `d · 10 ^ e` compared with `n · 2 ^ q`: whether it lies below or at
that number. -/
def decimalLe (d : Nat) (e : Int) (n : Nat) (q : Int) : Bool :=
  d * Nat.pow 10 e.toNat * Nat.pow 2 (-q).toNat ≤ n * Nat.pow 2 q.toNat * Nat.pow 10 (-e).toNat

namespace Binary64

/-- Whether a decimal lies among the reals that round to the finite number `x`. -/
def readsBack (x : Binary64) (d : Nat) (e : Int) : Bool :=
  let m := x.significand
  let q := x.exponent - 2
  -- in quarters of the unit; below a power of two the spacing is halved
  let low :=
    if m = Nat.pow 2 52 ∧ x.exponent ≠ FloatFormat.binary64.lowest then 4 * m - 1
    else 4 * m - 2
  let high := 4 * m + 2
  if m % 2 = 0 then leDecimal low q d e && decimalLe d e high q
  else !decimalLe d e low q && !leDecimal high q d e

/-- The better of the two neighbours of `x` on the grid `10 ^ e`, if one reads back. -/
def onGrid? (tie : Tie) (x : Binary64) (e : Int) : Option DecimalDigits :=
  let num := x.ratio.1 * Nat.pow 10 (-e).toNat
  let den := x.ratio.2 * Nat.pow 10 e.toNat
  let below := num / den
  let hitBelow := x.readsBack below e && below != 0
  let hitAbove := x.readsBack (below + 1) e
  let twiceRest := 2 * (num % den)
  let takeBelow :=
    if twiceRest < den then true
    else if den < twiceRest then false
    else match tie with
      | .even => below % 2 == 0
      | .up => false
  match hitBelow, hitAbove with
  | false, false => none
  | true, false => some ⟨below, e⟩
  | false, true => some ⟨below + 1, e⟩
  | true, true => some ⟨if takeBelow then below else below + 1, e⟩

/-- The shortest decimal that reads back as the finite nonzero number `x`, and of
those the closest. Seventeen digits always suffice. A single digit that was rounded
up to ten is the digit one of the next power. -/
def shortest (tie : Tie) (x : Binary64) : DecimalDigits :=
  let k := magnitude10 x.ratio.1 x.ratio.2
  match (List.range 17).findSome? fun i : Nat => x.onGrid? tie (k - (i + 1 : Nat)) with
  | some d => if d.digits = 10 then ⟨1, d.exponent + 1⟩ else d
  | none => ⟨0, 0⟩

end Binary64

end SqlCompose

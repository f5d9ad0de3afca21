import SqlCompose.Number.Binary64
/-!
# Reading numbers

Integers and floating-point numbers as they stand in text. An integer is a sign,
which may be missing, and decimal digits. A floating-point number may have a point
with digits on at least one side and an exponent, or be one of the words `inf`,
`infinity` and `nan`, in any letter case; it is read as the nearest
double-precision number.
-/

namespace SqlCompose

/-- The value of a decimal digit. -/
def digitValue (c : Char) : Nat := c.toNat - '0'.toNat

/-- The number that decimal digits spell. -/
def digitsValue (cs : List Char) : Nat :=
  cs.foldl (fun n c => 10 * n + digitValue c) 0

/-- A sign in front of a text, if there is one: whether it is a minus, and the rest. -/
def takeSign : List Char → Bool × List Char
  | '-' :: cs => (true, cs)
  | '+' :: cs => (false, cs)
  | cs => (false, cs)

/-- The integer that a text spells: digits, perhaps with a sign. -/
def readInt? (cs : List Char) : Option Int :=
  let (neg, ds) := takeSign cs
  if ds.isEmpty || !ds.all Char.isDigit then none
  else some (if neg then -(digitsValue ds : Int) else digitsValue ds)

/-- An integer as a 64-bit number, if it fits. -/
def int64OfInt? (n : Int) : Option Int64 :=
  if -Nat.pow 2 63 ≤ n ∧ n < Nat.pow 2 63 then some (Int64.ofInt n) else none

/-- The 64-bit integer that a text spells. -/
def readInt64? (cs : List Char) : Option Int64 :=
  (readInt? cs).bind int64OfInt?

namespace Binary64

/-- The number nearest to `± m · 10 ^ e`. Powers far outside the range are settled
without being computed. -/
def ofScientific (neg : Bool) (m : Nat) (e : Int) : Binary64 :=
  if m = 0 then zero neg
  else
    let digits := (Nat.toDigits 10 m).length
    if 310 < digits + e then infinite neg
    else if digits + e < -330 then zero neg
    else if 0 ≤ e then nearest neg (m * Nat.pow 10 e.toNat) 1
    else nearest neg m (Nat.pow 10 (-e).toNat)

/-- The exponent part of a number: `e` and an integer, or nothing. -/
def readExponent? : List Char → Option Int
  | [] => some 0
  | c :: cs => if c = 'e' ∨ c = 'E' then readInt? cs else none

/-- The number that a text spells in digits. -/
def readDigits? (neg : Bool) (cs : List Char) : Option Binary64 := do
  let whole := cs.takeWhile Char.isDigit
  let rest := cs.dropWhile Char.isDigit
  let (fraction, rest) :=
    match rest with
    | '.' :: more => (more.takeWhile Char.isDigit, more.dropWhile Char.isDigit)
    | _ => ([], rest)
  if whole.isEmpty && fraction.isEmpty then none
  else
    let e ← readExponent? rest
    some (ofScientific neg (digitsValue (whole ++ fraction)) (e - fraction.length))

/-- The number that a text spells. -/
def read? (cs : List Char) : Option Binary64 :=
  let (neg, body) := takeSign cs
  let word := String.ofList (body.map Char.toLower)
  if word = "inf" ∨ word = "infinity" then some (infinite neg)
  else if word = "nan" then some (ofPattern neg FloatFormat.binary64.quietNaN)
  else readDigits? neg body

end Binary64

end SqlCompose

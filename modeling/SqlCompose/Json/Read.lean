import SqlCompose.Json.Basic
import SqlCompose.Json.Written
import SqlCompose.Number.Read
/-!
# Reading JSON

JSON values from JSON text. Containers may be nested 127 deep. A number without point
and exponent is an integer if 64 bits suffice. Every other number is a floating-point
number, computed as its first digits, as many as fit into 64 bits, times a power of
ten; the product is rounded once more, so it need not be the nearest number.
-/

namespace SqlCompose

namespace JsonNumber

/-- Digits appended to a 64-bit number as long as it has room: the number and how many
digits are left. -/
def appendDigits (n : Nat) : List Char → Nat × Nat
  | [] => (n, 0)
  | c :: cs =>
    let m := 10 * n + digitValue c
    if m < Nat.pow 2 64 then appendDigits m cs else (n, cs.length + 1)

/-- A power of ten as a floating-point number. -/
def powerOfTen (k : Nat) : Binary64 := Binary64.nearest false (Nat.pow 10 k) 1

/-- A number divided by `10 ^ k`, in steps of at most 308 places. -/
def shrink (x : Binary64) (k : Nat) : Binary64 :=
  if k ≤ 308 then x.div (powerOfTen k)
  else if x.pattern = 0 then x
  else shrink (x.div (powerOfTen 308)) (k - 308)
termination_by k

/-- The number `digits · 10 ^ e`, unless it is too large. -/
def scale? (negative : Bool) (digits : Nat) (e : Int) : Option Binary64 :=
  let x := Binary64.nearest false digits 1
  let scaled? : Option Binary64 :=
    if e < 0 then some (shrink x (-e).toNat)
    else if 308 < e then (if digits = 0 then some x else none)
    else
      let y := x.mul (powerOfTen e.toNat)
      if y.isInfinite then none else some y
  scaled?.map fun y => if negative then y.neg else y

/-- The largest exponent that is looked at as a number. -/
def maxExponent : Nat := 2147483647

/-- The number that a text spells, unless it is too large. -/
def ofText? (t : Json.NumberText) : Option JsonNumber :=
  let (whole, dropped) := appendDigits 0 t.whole
  match t.fraction, t.exponent with
  | none, none =>
    if dropped ≠ 0 then (scale? t.negative whole dropped).map .float
    else if !t.negative then some (.integer whole)
    else if 0 < whole ∧ whole ≤ Nat.pow 2 63 then some (.integer (-(whole : Int)))
    else some (.float (Binary64.nearest true whole 1))
  | fraction, exponent =>
    let places := (fraction.getD [])
    let (digits, unread) := appendDigits whole places
    let e : Int := dropped - (places.length - unread : Nat)
    match exponent with
    | none => (scale? t.negative digits e).map .float
    | some (down, ds) =>
      let n := digitsValue ds
      if maxExponent < n then
        if digits ≠ 0 ∧ !down then none else some (.float (Binary64.zero t.negative))
      else (scale? t.negative digits (if down then e - n else e + n)).map .float

end JsonNumber

namespace Json

mutual
/-- The value of a tree in which at most `room` containers are nested. -/
def ofWritten? (room : Nat) : Written → Option Json
  | .null => some .null
  | .bool b => some (.bool b)
  | .number n => (JsonNumber.ofText? n).map .number
  | .string s => s.map .string
  | .array items =>
    if room = 0 then none else (ofWrittenItems? (room - 1) items).map .array
  | .object members =>
    if room = 0 then none else (ofWrittenMembers? (room - 1) members).map ofMembers

/-- The values of the items of an array. -/
def ofWrittenItems? (room : Nat) : List Written → Option (List Json)
  | [] => some []
  | w :: ws => do
    let x ← ofWritten? room w
    let xs ← ofWrittenItems? room ws
    some (x :: xs)

/-- The members of an object. -/
def ofWrittenMembers? (room : Nat) : List (Option String × Written) → Option (List (String × Json))
  | [] => some []
  | (name, w) :: ws => do
    let name ← name
    let x ← ofWritten? room w
    let xs ← ofWrittenMembers? room ws
    some ((name, x) :: xs)
end

/-- The number of containers that may be nested in each other. -/
def nesting : Nat := 127

/-- The value of a JSON text. -/
def read? (s : String) : Option Json :=
  (Written.read? s).bind (ofWritten? nesting)

end Json

end SqlCompose

/-!
# Big-endian bytes

Numbers as a fixed number of bytes, the most significant one first. What does not fit is
left out. Signed numbers are written modulo what fits as well, and read with the upper half
as negative.
-/

namespace SqlCompose

/-- The last `width` bytes of a number. -/
def bigEndian : Nat → Nat → List UInt8
  | 0, _ => []
  | width + 1, n => bigEndian width (n / 256) ++ [UInt8.ofNat (n % 256)]

/-- The number that bytes stand for. -/
def ofBigEndian (bytes : List UInt8) : Nat :=
  bytes.foldl (fun n b => n * 256 + b.toNat) 0

/-- The last `width` bytes of a signed number. -/
def signedBytes (width : Nat) (n : Int) : List UInt8 :=
  bigEndian width (n % Nat.pow 256 width).toNat

/-- The signed number that bytes stand for. -/
def ofSignedBytes (bytes : List UInt8) : Int :=
  let n := ofBigEndian bytes
  let whole := Nat.pow 256 bytes.length
  if 2 * n < whole then n else (n : Int) - whole

end SqlCompose

import SqlCompose.Value.Basic
import SqlCompose.Wire.Numeric
import SqlCompose.Wire.Type
/-!
# Values as parameters

The bytes of a value given as a parameter of some type. Integers are narrowed to the
width of the type if they fit, and integers and floating-point numbers are given as
exact numbers if they can be. All other values have a type or a family of types of
their own, and null is no bytes whatever the type.
-/

namespace SqlCompose

/-- Why a value cannot be given as a parameter. -/
inductive EncodeError
  /-- Such values are not of that type. -/
  | wrongType
  /-- The number does not fit into the width of the type. -/
  | outOfRange
  /-- The floating-point number is not a decimal. -/
  | notDecimal
deriving DecidableEq

namespace WireType

/-- Bytes for one of the given types. -/
def among (types : List WireType) (bytes : List UInt8) (t : WireType) :
    Except EncodeError (List UInt8) :=
  if types.contains t then .ok bytes else .error .wrongType

/-- The types of text. -/
def texts : List WireType := [text, varchar, bpchar, name, unknown]

/-- A number in a signed width, if it fits. -/
def signed (width : Nat) (n : Int) : Except EncodeError (List UInt8) :=
  let whole := Nat.pow 256 width
  if -(whole : Int) ≤ 2 * n ∧ 2 * n < whole then .ok (signedBytes width n)
  else .error .outOfRange

/-- A number in an unsigned width, if it fits. -/
def unsigned (width : Nat) (n : Int) : Except EncodeError (List UInt8) :=
  if 0 ≤ n ∧ n < Nat.pow 256 width then .ok (bigEndian width n.toNat) else .error .outOfRange

/-- The bits of the single-precision number nearest to an integer. -/
def binary32OfInt (n : Int) : Nat :=
  FloatFormat.binary32.nearest n.natAbs 1 + if n < 0 then FloatFormat.binary32.signBit else 0

/-- An integer as a parameter. -/
def encodeInt (n : Int64) : WireType → Except EncodeError (List UInt8)
  | int2 => signed 2 n.toInt
  | int4 => signed 4 n.toInt
  | int8 => signed 8 n.toInt
  | oid => unsigned 4 n.toInt
  | float4 => .ok (bigEndian 4 (binary32OfInt n.toInt))
  | float8 => .ok (bigEndian 8 (Binary64.ofInt n.toInt).bits.toNat)
  | numeric => .ok (Numeric.ofDecimal (Decimal.ofInt64 n)).write
  | text | varchar | bpchar => .ok (Text.toUtf8 (toString n.toInt))
  | _ => .error .wrongType

/-- A floating-point number as a parameter. -/
def encodeFloat (x : Binary64) : WireType → Except EncodeError (List UInt8)
  | float4 => .ok (bigEndian 4 x.toBinary32Bits)
  | float8 => .ok (bigEndian 8 x.bits.toNat)
  | numeric =>
    match Decimal.ofBinary64? x with
    | some d => .ok (Numeric.ofDecimal d).write
    | none => .error .notDecimal
  | _ => .error .wrongType

/-- JSON as a parameter; the binary form has the number of its version in front. -/
def encodeJson (j : Json) : WireType → Except EncodeError (List UInt8)
  | json => .ok (Text.toUtf8 j.write)
  | jsonb => .ok (1 :: Text.toUtf8 j.write)
  | _ => .error .wrongType

/-- The bytes of a value given as a parameter; none for null. -/
def encode (t : WireType) : Value → Except EncodeError (Option (List UInt8))
  | .null => .ok none
  | .bool b => (among [bool] [if b then 1 else 0] t).map some
  | .int n => (encodeInt n t).map some
  | .float x => (encodeFloat x t).map some
  | .decimal d => (among [numeric] (Numeric.ofDecimal d).write t).map some
  | .string s => (among texts (Text.toUtf8 s) t).map some
  | .bytes bs => (among [bytea] bs t).map some
  | .date d => (among [date] (signedBytes 4 d.toDays) t).map some
  | .dateTime m => (among [timestamp] (signedBytes 8 m.toMicros) t).map some
  | .moment m => (among [timestamptz] (signedBytes 8 m.toMicros) t).map some
  | .time m => (among [time] (bigEndian 8 (m.toNanos / 1000)) t).map some
  | .uuid u => (among [uuid] u.toBytes t).map some
  | .json j => (encodeJson j t).map some

end WireType

end SqlCompose

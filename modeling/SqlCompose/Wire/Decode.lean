import SqlCompose.Error
import SqlCompose.Json.Read
import SqlCompose.Value.Basic
import SqlCompose.Wire.Numeric
import SqlCompose.Wire.Type
/-!
# Cells of results

The value of a cell of a result from its bytes and the type of its column. Numbers have
to have the width of their type. A type that no value has is refused, whether or not
the cell has bytes.
-/

namespace SqlCompose

namespace WireType

/-- The number in bytes of a width. -/
def unsigned? (width : Nat) (bytes : List UInt8) : Option Nat :=
  if bytes.length = width then some (ofBigEndian bytes) else none

/-- The signed number in bytes of a width. -/
def signed? (width : Nat) (bytes : List UInt8) : Option Int :=
  if bytes.length = width then some (ofSignedBytes bytes) else none

/-- The signed number in bytes of a width, as an integer value. -/
def int? (width : Nat) (bytes : List UInt8) : Option Value :=
  (signed? width bytes).map fun n => .int (Int64.ofInt n)

/-- JSON in bytes. -/
def json? (bytes : List UInt8) : Option Value :=
  ((Text.ofUtf8? bytes).bind Json.read?).map .json

/-- The value of bytes. -/
def decode? (t : WireType) (bytes : List UInt8) : Option Value :=
  match t with
  | bool => (unsigned? 1 bytes).map fun n => .bool (n ≠ 0)
  | int2 => int? 2 bytes
  | int4 => int? 4 bytes
  | int8 => int? 8 bytes
  | oid => (unsigned? 4 bytes).map fun n => .int (Int64.ofNat n)
  | float4 => (unsigned? 4 bytes).map fun n => .float (Binary64.ofBinary32Bits n)
  | float8 => (unsigned? 8 bytes).map fun n => .float ⟨n.toUInt64⟩
  | numeric => ((Numeric.read? bytes).bind Numeric.toDecimal?).map .decimal
  | text | varchar | bpchar | name | unknown => (Text.ofUtf8? bytes).map .string
  | bytea => some (.bytes bytes)
  | date => ((signed? 4 bytes).bind Date.ofDays?).map .date
  | timestamp => ((signed? 8 bytes).bind DateTime.ofMicros?).map .dateTime
  | timestamptz => ((signed? 8 bytes).bind DateTime.ofMicros?).map .moment
  | time => (signed? 8 bytes).map fun n => .time (TimeOfDay.ofMicros n)
  | uuid => (Uuid.ofBytes? bytes).map .uuid
  | json => json? bytes
  | jsonb =>
    match bytes with
    | 1 :: rest => json? rest
    | _ => none
  | other _ => none

/-- The value of a cell; `index` is the number of its column. -/
def decodeCell (column : String) (t : WireType) (index : Nat) (cell : Option (List UInt8)) :
    Except Error Value :=
  match t, cell with
  | other typeName, _ =>
    .error (.decode column ("unsupported column type '" ++ typeName ++ "'"))
  | _, none => .ok .null
  | t, some bytes =>
    match t.decode? bytes with
    | some v => .ok v
    | none => .error (.decode column ("error deserializing column " ++ toString index))

end WireType

end SqlCompose

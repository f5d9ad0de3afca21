import SqlCompose.Calendar.Read
import SqlCompose.Decimal.Read
import SqlCompose.Json.Read
import SqlCompose.Value.Basic
/-!
# Values as tagged JSON

The JSON form in which values are stored: an object with the kind of the value under
`type` and its content under `value`; null has no content. Floating-point numbers that
are not finite have no JSON form and are stored as null, which is not read back as a
number.

The reader takes the two members in either order among any others, and also an array
of kind and content.
-/

namespace SqlCompose.Value

/-- The kinds of values, as they stand under `type`. -/
inductive Kind
  | null | bool | int | float | decimal | string | bytes | date | dateTime | moment | time
  | uuid | json
deriving DecidableEq

/-- All kinds with their names. -/
def Kind.names : List (Kind × String) :=
  [(.null, "Null"), (.bool, "Bool"), (.int, "Int"), (.float, "Float"), (.decimal, "Decimal"),
   (.string, "String"), (.bytes, "Bytes"), (.date, "Date"), (.dateTime, "DateTime"),
   (.moment, "DateTimeTz"), (.time, "Time"), (.uuid, "Uuid"), (.json, "Json")]

/-- The kind of a name. -/
def Kind.ofName? (name : String) : Option Kind :=
  (Kind.names.find? (·.2 == name)).map (·.1)

/-! ### Writing -/

/-- The object of a kind and its content. -/
def tagged (name content : String) : String :=
  "\x7b\"type\":\"" ++ name ++ "\",\"value\":" ++ content ++ "\x7d"

/-- The stored form of a value. -/
def writeTagged : Value → String
  | null => "\x7b\"type\":\"Null\"\x7d"
  | bool b => tagged "Bool" (if b then "true" else "false")
  | int n => tagged "Int" (toString n.toInt)
  | float x => tagged "Float" (if x.isFinite then FloatStyle.json.write x else "null")
  | decimal d => tagged "Decimal" (Json.quote d.write)
  | string s => tagged "String" (Json.quote s)
  | bytes bs => tagged "Bytes" ("[" ++ Text.join "," (bs.map fun b => toString b.toNat) ++ "]")
  | date d => tagged "Date" (Json.quote d.write)
  | dateTime t => tagged "DateTime" (Json.quote (t.write "T"))
  | moment t => tagged "DateTimeTz" (Json.quote (t.write "T" ++ "Z"))
  | time t => tagged "Time" (Json.quote t.write)
  | uuid u => tagged "Uuid" (Json.quote u.write)
  | json j => tagged "Json" j.write

/-! ### Reading -/

open Json (Written)

/-- The characters of a stored text. -/
def chars? : Written → Option (List Char)
  | .string s => s.map String.toList
  | _ => none

/-- A stored floating-point number. -/
def float? : Written → Option Binary64
  | .number t => (JsonNumber.ofText? t).map fun
    | .integer n => Binary64.ofInt n
    | .float x => x
  | _ => none

/-- A stored integer. -/
def int? : Written → Option Int
  | .number t =>
    match JsonNumber.ofText? t with
    | some (.integer n) => some n
    | _ => none
  | _ => none

/-- A stored byte. -/
def byte? (w : Written) : Option UInt8 :=
  (int? w).bind fun n => if 0 ≤ n ∧ n < 256 then some (UInt8.ofNat n.toNat) else none

/-- A stored decimal: a text, or a number that is read as it is shown. -/
def decimal? : Written → Option Decimal
  | .string s => s.bind fun s => Decimal.read? s.toList
  | .number t =>
    match JsonNumber.ofText? t with
    | some (.integer n) => Decimal.of? n 0
    | some (.float x) => Decimal.read? (FloatStyle.plain.write x).toList
    | none => none
  | _ => none

/-- The value of a kind with a stored content in which `room` containers may be
nested. -/
def ofContent? (room : Nat) (kind : Kind) (w : Written) : Option Value :=
  match kind with
  | .null =>
    match w with
    | .null => some .null
    | _ => none
  | .bool =>
    match w with
    | .bool b => some (.bool b)
    | _ => none
  | .int => ((int? w).bind int64OfInt?).map .int
  | .float => (float? w).map .float
  | .decimal => (decimal? w).map .decimal
  | .string => (chars? w).map fun cs => .string (String.ofList cs)
  | .bytes =>
    match w with
    | .array items => if room = 0 then none else (items.mapM byte?).map .bytes
    | _ => none
  | .date => ((chars? w).bind Date.read?).map .date
  | .dateTime => ((chars? w).bind DateTime.read?).map .dateTime
  | .moment => ((chars? w).bind DateTime.readZoned?).map .moment
  | .time => ((chars? w).bind TimeOfDay.read?).map .time
  | .uuid => ((chars? w).bind Uuid.read?).map .uuid
  | .json => (Json.ofWritten? room w).map .json

/-- The kind that a text names. -/
def namedKind? : Written → Option Kind
  | .string s => s.bind Kind.ofName?
  | _ => none

/-- The kind that the tag of an object names: a text, or an object whose only member has
that name and no content. -/
def kind? (room : Nat) : Written → Option Kind
  | .object [(name, .null)] => if room = 0 then none else name.bind Kind.ofName?
  | tag => namedKind? tag

/-- A value from its stored form, in which `room` containers may be nested. -/
def ofWritten? (room : Nat) : Written → Option Value
  | .array [tag, content] => do
    if room = 0 then none
    let kind ← namedKind? tag
    ofContent? (room - 1) kind content
  | .object members => do
    if room = 0 then none
    let named ← members.mapM fun m => m.1.map fun name => (name, m.2)
    match named.filter fun m => m.1 == "type" || m.1 == "value" with
    | [("type", tag)] =>
      if (← kind? (room - 1) tag) = .null then some .null else none
    | [("type", tag), ("value", content)] =>
      let kind ← kind? (room - 1) tag
      ofContent? (room - 1) kind content
    | [("value", content), ("type", tag)] =>
      let kind ← kind? (room - 1) tag
      ofContent? (room - 1) kind content
    | _ => none
  | _ => none

/-- The value of a stored text. -/
def readTagged? (s : String) : Option Value :=
  (Written.read? s).bind (ofWritten? Json.nesting)

end SqlCompose.Value

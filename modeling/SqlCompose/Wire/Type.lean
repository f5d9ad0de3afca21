/-!
# Backend types

The types of parameters and columns by their names. Those that values can be given as
have constructors of their own.
-/

namespace SqlCompose

/-- The type of a parameter or a column. -/
inductive WireType
  | bool
  | int2
  | int4
  | int8
  | oid
  | float4
  | float8
  | numeric
  | text
  | varchar
  | bpchar
  | name
  | unknown
  | bytea
  | date
  | timestamp
  | timestamptz
  | time
  | uuid
  | json
  | jsonb
  /-- Any other type. -/
  | other (typeName : String)
deriving DecidableEq

namespace WireType

/-- The types that values can be given as, with their names. -/
def known : List (String × WireType) :=
  [("bool", bool), ("int2", int2), ("int4", int4), ("int8", int8), ("oid", oid),
    ("float4", float4), ("float8", float8), ("numeric", numeric), ("text", text),
    ("varchar", varchar), ("bpchar", bpchar), ("name", name), ("unknown", unknown),
    ("bytea", bytea), ("date", date), ("timestamp", timestamp),
    ("timestamptz", timestamptz), ("time", time), ("uuid", uuid), ("json", json),
    ("jsonb", jsonb)]

/-- The type with a name. -/
def ofName (s : String) : WireType :=
  match known.find? fun e => e.1 == s with
  | some e => e.2
  | none => other s

/-- The name of a type. -/
def typeName : WireType → String
  | bool => "bool"
  | int2 => "int2"
  | int4 => "int4"
  | int8 => "int8"
  | oid => "oid"
  | float4 => "float4"
  | float8 => "float8"
  | numeric => "numeric"
  | text => "text"
  | varchar => "varchar"
  | bpchar => "bpchar"
  | name => "name"
  | unknown => "unknown"
  | bytea => "bytea"
  | date => "date"
  | timestamp => "timestamp"
  | timestamptz => "timestamptz"
  | time => "time"
  | uuid => "uuid"
  | json => "json"
  | jsonb => "jsonb"
  | other s => s

end WireType

end SqlCompose

import SqlCompose.Error
/-!
# Column types

The types that column definitions are written in, independent of any backend, and
their tokens.
-/

namespace SqlCompose

/-- A column type that every dialect has a physical type for. -/
inductive ColumnType
  | pk | bigPk | string | text | smallInt | integer | bigInt | float | double | decimal
  | dateTime | timestamp | time | date | binary | boolean | money
deriving DecidableEq

namespace ColumnType

/-- All column types. -/
def all : List ColumnType :=
  [.pk, .bigPk, .string, .text, .smallInt, .integer, .bigInt, .float, .double, .decimal,
   .dateTime, .timestamp, .time, .date, .binary, .boolean, .money]

/-- The token of a column type. -/
def token : ColumnType → String
  | pk => "pk"
  | bigPk => "bigpk"
  | string => "string"
  | text => "text"
  | smallInt => "smallint"
  | integer => "integer"
  | bigInt => "bigint"
  | float => "float"
  | double => "double"
  | decimal => "decimal"
  | dateTime => "datetime"
  | timestamp => "timestamp"
  | time => "time"
  | date => "date"
  | binary => "binary"
  | boolean => "boolean"
  | money => "money"

/-- The column type of a token. -/
def ofToken? (token : String) : Option ColumnType :=
  all.find? fun t => t.token = token

/-- The column type of a token, or an error that names it. -/
def parse (token : String) : Except Error ColumnType :=
  match ofToken? token with
  | some t => .ok t
  | none => .error (.validation ("unknown column type: " ++ token))

end ColumnType

end SqlCompose

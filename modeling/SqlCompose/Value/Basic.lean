import SqlCompose.Calendar.Write
import SqlCompose.Decimal.Binary
import SqlCompose.Json.Write
import SqlCompose.Number.Read
import SqlCompose.Text.Blank
import SqlCompose.Text.Utf8
/-!
# Values

The values that are bound to placeholders and that come back in result rows, with
their views as an integer, a floating-point number and a text, and the text in which
they are shown and compared as patterns.
-/

namespace SqlCompose

/-- A value of a database column. -/
inductive Value
  | null
  | bool (b : Bool)
  | int (n : Int64)
  | float (x : Binary64)
  | decimal (d : Decimal)
  | string (s : String)
  | bytes (bs : List UInt8)
  | date (d : Date)
  | dateTime (t : DateTime)
  /-- A moment, in UTC. -/
  | moment (t : DateTime)
  | time (t : TimeOfDay)
  | uuid (u : Uuid)
  | json (j : Json)

namespace Value

/-- Whether a value is the null of SQL. -/
def isNull : Value → Bool
  | null => true
  | _ => false

/-- The nearest 64-bit integer to an integer. -/
def clampInt64 (n : Int) : Int64 :=
  Int64.ofInt (max (-Nat.pow 2 63) (min n (Nat.pow 2 63 - 1)))

/-- The integer that a value stands for. Texts are read, since some backends send
counts as text; a whole floating-point number is moved to the nearest integer that
has 64 bits. -/
def asInt? : Value → Option Int64
  | int n => some n
  | bool b => some (if b then 1 else 0)
  | decimal d => d.toInt?.bind int64OfInt?
  | float x => if x.isIntegral then some (clampInt64 x.truncate) else none
  | string s => readInt64? (Text.trimChars s.toList)
  | _ => none

/-- The floating-point number that a value stands for. -/
def asFloat? : Value → Option Binary64
  | int n => some (Binary64.ofInt n.toInt)
  | float x => some x
  | decimal d => some d.toBinary64
  | string s => Binary64.read? (Text.trimChars s.toList)
  | _ => none

/-- The text of a value that is a text. -/
def asText? : Value → Option String
  | string s => some s
  | _ => none

/-- The text in which a value is shown. -/
def display : Value → String
  | null => "NULL"
  | bool b => if b then "true" else "false"
  | int n => toString n.toInt
  | float x => FloatStyle.plain.write x
  | decimal d => d.write
  | string s => s
  | bytes bs => Text.ofUtf8Lossy bs
  | date d => d.write
  | dateTime t => t.write " "
  | moment t => t.write " " ++ " UTC"
  | time t => t.write
  | uuid u => u.write
  | json j => j.write

/-- Equality of values of the same kind, of numbers as numbers: a not-a-number differs
from itself, and decimals may differ in their scale. -/
def equal : Value → Value → Bool
  | null, null => true
  | bool a, bool b => a == b
  | int a, int b => a == b
  | float a, float b => a.numEq b
  | decimal a, decimal b => a.numEq b
  | string a, string b => a == b
  | bytes a, bytes b => a == b
  | date a, date b => a == b
  | dateTime a, dateTime b => a == b
  | moment a, moment b => a == b
  | time a, time b => a == b
  | uuid a, uuid b => a == b
  | json a, json b => a.equal b
  | _, _ => false

end Value

end SqlCompose

import SqlCompose.Json.Basic
import SqlCompose.Number.FloatText
import SqlCompose.Text.Basic
import SqlCompose.Uuid
/-!
# JSON text

The compact text of a JSON value. In a string only the quotation mark, the backslash
and the control characters below U+0020 are escaped.
-/

namespace SqlCompose.Json

/-- A character as it stands in a JSON string. -/
def escapeChar (c : Char) : List Char :=
  if c = '\x22' then ['\\', '\x22']
  else if c = '\\' then ['\\', '\\']
  else if c = '\x08' then ['\\', 'b']
  else if c = '\x0c' then ['\\', 'f']
  else if c = '\n' then ['\\', 'n']
  else if c = '\r' then ['\\', 'r']
  else if c = '\t' then ['\\', 't']
  else if c.toNat < 0x20 then ['\\', 'u'] ++ writeHex 4 c.toNat
  else [c]

/-- A text as a JSON string. -/
def quote (s : String) : String :=
  "\"" ++ String.ofList (s.toList.flatMap escapeChar) ++ "\""

/-- The text of a JSON number. -/
def writeNumber : JsonNumber → String
  | .integer n => toString n
  | .float x => FloatStyle.json.write x

mutual
/-- The compact text of a JSON value. -/
def write : Json → String
  | .null => "null"
  | .bool b => if b then "true" else "false"
  | .number n => writeNumber n
  | .string s => quote s
  | .array items => "[" ++ Text.join "," (writeItems items) ++ "]"
  | .object members => "\x7b" ++ Text.join "," (writeMembers members) ++ "\x7d"

/-- The texts of the items of an array. -/
def writeItems : List Json → List String
  | [] => []
  | x :: xs => write x :: writeItems xs

/-- The texts of the members of an object. -/
def writeMembers : List (String × Json) → List String
  | [] => []
  | (name, x) :: xs => (quote name ++ ":" ++ write x) :: writeMembers xs
end

end SqlCompose.Json

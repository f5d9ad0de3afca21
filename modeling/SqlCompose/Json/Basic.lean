import SqlCompose.Number.Binary64
/-!
# JSON values

JSON data with the members of an object in the order of their names and without
repetitions. `Json.object` holds any list of members; `Json.ofMembers` builds the
ordered one, the last member of a name winning.
-/

namespace SqlCompose

/-- A JSON number: an integer of at most 64 bits, or a floating-point number. -/
inductive JsonNumber
  | integer (n : Int)
  | float (x : Binary64)

/-- A JSON value. -/
inductive Json
  | null
  | bool (b : Bool)
  | number (n : JsonNumber)
  | string (s : String)
  | array (items : List Json)
  | object (members : List (String × Json))

namespace JsonNumber

/-- Equality of numbers of the same kind. -/
def equal : JsonNumber → JsonNumber → Bool
  | integer m, integer n => m == n
  | float x, float y => x.numEq y
  | _, _ => false

end JsonNumber

namespace Json

/-- A member put into an ordered list of members, in place of one of its name. -/
def insertMember (name : String) (value : Json) :
    List (String × Json) → List (String × Json)
  | [] => [(name, value)]
  | m :: rest =>
    if name = m.1 then (name, value) :: rest
    else if name < m.1 then (name, value) :: m :: rest
    else m :: insertMember name value rest

/-- The object of the given members. -/
def ofMembers (members : List (String × Json)) : Json :=
  .object (members.foldl (fun ms m => insertMember m.1 m.2 ms) [])

mutual
/-- Equality of values: numbers of the same kind are compared as numbers, so that not
every value with a float equals itself. -/
def equal : Json → Json → Bool
  | .null, .null => true
  | .bool a, .bool b => a == b
  | .number m, .number n => m.equal n
  | .string s, .string t => s == t
  | .array xs, .array ys => equalItems xs ys
  | .object ms, .object ns => equalMembers ms ns
  | _, _ => false

/-- Equality of arrays, item by item. -/
def equalItems : List Json → List Json → Bool
  | [], [] => true
  | x :: xs, y :: ys => equal x y && equalItems xs ys
  | _, _ => false

/-- Equality of objects, member by member. -/
def equalMembers : List (String × Json) → List (String × Json) → Bool
  | [], [] => true
  | (k, x) :: xs, (l, y) :: ys => k == l && equal x y && equalMembers xs ys
  | _, _ => false
end

end Json

end SqlCompose

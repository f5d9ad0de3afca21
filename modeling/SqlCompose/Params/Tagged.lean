import SqlCompose.Params.Basic
import SqlCompose.Value.Tagged
/-!
# Parameters as JSON

The JSON form in which parameters are stored: an object with the list of entries under
`entries`, each a pair of a name and a stored value. The reader also takes an array
with the list as its only item, and keeps entries of equal names apart.
-/

namespace SqlCompose.Params

open Json (Written)

/-- The stored form of parameters. -/
def writeTagged (p : Params) : String :=
  let entries := p.entries.map fun e => "[" ++ Json.quote e.1 ++ "," ++ e.2.writeTagged ++ "]"
  "\x7b\"entries\":[" ++ Text.join "," entries ++ "]\x7d"

/-- An entry from its stored form. -/
def pair? (room : Nat) : Written → Option (String × Value)
  | .array [name, value] => do
    if room = 0 then none
    let cs ← Value.chars? name
    let v ← Value.ofWritten? (room - 1) value
    some (String.ofList cs, v)
  | _ => none

/-- Entries from their stored form. -/
def entries? (room : Nat) : Written → Option Params
  | .array items => if room = 0 then none else (items.mapM (pair? (room - 1))).map (⟨·⟩)
  | _ => none

/-- Parameters from their stored form. -/
def ofWritten? (room : Nat) : Written → Option Params
  | .array [entries] => if room = 0 then none else entries? (room - 1) entries
  | .object members => do
    if room = 0 then none
    let named ← members.mapM fun m => m.1.map fun name => (name, m.2)
    match named.filter fun m => m.1 == "entries" with
    | [(_, entries)] => entries? (room - 1) entries
    | _ => none
  | _ => none

/-- The parameters of a stored text. -/
def readTagged? (s : String) : Option Params :=
  (Written.read? s).bind (ofWritten? Json.nesting)

/-- Equality of parameters, entry by entry. -/
def equal (p q : Params) : Bool :=
  p.entries.length == q.entries.length &&
    (p.entries.zip q.entries).all fun pair => pair.1.1 == pair.2.1 && pair.1.2.equal pair.2.2

end SqlCompose.Params

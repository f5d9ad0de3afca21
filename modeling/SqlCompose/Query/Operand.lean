import SqlCompose.Error
import SqlCompose.Query.Node
/-!
# Reading operands

The number and the shape of the operands that an operator takes. Reading an operand
never depends on the conditions and queries inside it, so each reader works at every
stage at which these have been replaced by something else.
-/

namespace SqlCompose.Operand

variable {κ θ : Type}

/-- A refusal of an operand. -/
def invalid {α : Type} (op : Operator) (message : String) : Except Error α :=
  .error (.invalidOperand op.text message)

/-- A refusal of the number of operands. -/
def wrongCount {α : Type} (op : Operator) (expected : String) : Except Error α :=
  .error (.arity op.text expected)

/-- The operand as the name of a column. -/
def asColumn (op : Operator) : Operand κ θ → Except Error String
  | .expr name => .ok name
  | .columns [name] => .ok name
  | _ => invalid op "expected a column name"

/-- The operand as a value; text is a text value. -/
def asValue (op : Operator) : Operand κ θ → Except Error Value
  | .value v => .ok v
  | .expr text => .ok (.string text)
  | _ => invalid op "expected a scalar value"

/-- The columns of a membership. -/
def memberColumns (op : Operator) : Operand κ θ → Except Error (List String)
  | .expr name => .ok [name]
  | .columns names => .ok names
  | _ => invalid op "expected a column name or a list of column names"

/-- Whether the right-hand side of a membership lists nothing. -/
def listsNothing : Operand κ θ → Bool
  | .values vs => vs.isEmpty
  | .rows rs => rs.isEmpty
  | _ => false

/-- The value that a row has for a column; null, if it has none. -/
def valueIn (row : List (String × Value)) (column : String) : Value :=
  match row.find? fun e => e.1 == column with
  | some e => e.2
  | none => .null

/-- The values among which a single column is looked for. -/
def memberValues (op : Operator) (column : String) : Operand κ θ → Except Error (List Value)
  | .values vs => .ok vs
  | .value v => .ok [v]
  | .expr text => .ok [.string text]
  | .rows rs => .ok (rs.map fun row => valueIn row column)
  | _ => invalid op "expected a list of values or a subquery"

/-- The patterns of a pattern operator. -/
def patterns (op : Operator) : Operand κ θ → Except Error (List Value)
  | .values vs => .ok vs
  | .value v => .ok [v]
  | .expr text => .ok [.string text]
  | _ => invalid op "expected a pattern or a list of patterns"

/-- What a pattern operator is applied to. -/
structure Matching where
  column : String
  patterns : List Value
  escape : LikeEscape

/-- The column and the patterns of a pattern operator. -/
def matchingWith (op : Operator) (column right : Operand κ θ) (escape : LikeEscape) :
    Except Error Matching := do
  let name ← asColumn op column
  let vs ← patterns op right
  .ok ⟨name, vs, escape⟩

/-- The column and the patterns of a pattern operator, perhaps with an escaping of their
own. -/
def matching (op : Operator) : List (Operand κ θ) → Except Error Matching
  | [column, right] => matchingWith op column right .standard
  | [column, right, .escape e] => matchingWith op column right e
  | [_, _, _] => invalid op "third operand must be an escape map"
  | _ => wrongCount op "two operands"

end SqlCompose.Operand

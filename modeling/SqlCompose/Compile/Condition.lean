import SqlCompose.Compile.Fragment
import SqlCompose.Compile.Plain
import SqlCompose.Query.Operand
/-!
# Compiling conditions

What one layer of a condition turns into when the conditions and queries inside it have
been compiled. Each kind of operator has its rule for the number and the shape of its
operands, and refuses others.

A condition may turn into no text at all, which stands for no restriction: junctions
leave such operands out. An empty list of values is the impossible `0=1` for `IN` and
`LIKE`, and no restriction for `NOT IN` and `NOT LIKE`.
-/

namespace SqlCompose

/-- An operand whose condition or query has been compiled. -/
abbrev Part := Operand Compiled Compiled

/-- The operand as a condition; text is taken as it is. -/
def Part.asCondition (op : Operator) (message : String) : Part → Compiled
  | .condition c => c
  | .expr sql => .ok (Fragment.text sql)
  | _ => Compiled.lift (Operand.invalid op message)

/-- A value in a list of values: a slot, or the word `NULL`. -/
def Fragment.entry (v : Value) : Fragment :=
  if v.isNull then text "NULL" else slot v

/-- The values of a row, in the order of some columns. -/
def Fragment.tuple (names : List String) (row : List (String × Value)) : Fragment :=
  text "(" ++ join ", " (names.map fun n => entry (Operand.valueIn row n)) ++ text ")"

/-- The condition that no value satisfies, or none at all if it is negated. -/
def emptyList (negated : Bool) : Fragment :=
  if negated then [] else Fragment.text "0=1"

namespace Dialect

variable (d : Dialect)

/-- A column with one of some values, or with none of them. A single value is compared
directly. -/
def listed (op : Operator) (column : String) (vs : List Value) : Fragment :=
  let negated := op == .notIn
  match vs with
  | [] => emptyList negated
  | [v] => Fragment.text (d.column column ++ if negated then "<>" else "=") ++ Fragment.entry v
  | _ =>
    Fragment.text (d.column column ++ " " ++ op.text ++ " (") ++
      Fragment.join ", " (vs.map Fragment.entry) ++ Fragment.text ")"

/-- Columns with one of the results of a query, or with none of them. -/
def inQuery (op : Operator) (names : List String) (query : Compiled) : Compiled :=
  query.map fun f =>
    Fragment.text (d.columnTuple names ++ " " ++ op.text ++ " (") ++ f ++ Fragment.text ")"

/-- Columns with the values of one of some rows, or of none of them. -/
def inRows (op : Operator) (names : List String) (rows : List (List (String × Value))) :
    Fragment :=
  Fragment.text ("(" ++ d.columns names ++ ") " ++ op.text ++ " (") ++
    Fragment.join ", " (rows.map (Fragment.tuple names)) ++ Fragment.text ")"

/-- The membership of one or several columns in values, rows or results. -/
def memberOf (op : Operator) (names : List String) (right : Part) : Compiled :=
  if names.isEmpty || right.listsNothing then .ok (emptyList (op == .notIn))
  else
    match names, right with
    | names, .query q => d.inQuery op names q
    | [name], right =>
      (Compiled.lift (right.memberValues op name)).map fun vs => d.listed op name vs
    | names, .rows rs => .ok (d.inRows op names rs)
    | _, _ => Compiled.lift (Operand.invalid op "composite IN expects rows keyed by column")

/-! ### The operators -/

/-- All or one of the operands, those that are no text left out. -/
def junction (op : Operator) (parts : List Part) : Compiled :=
  (Compiled.sequence (parts.map (Part.asCondition op "operands must be conditions"))).map fun fs =>
    match fs.filter (!·.isEmpty) with
    | [] => []
    | fs => Fragment.text "(" ++ Fragment.join (") " ++ op.text ++ " (") fs ++ Fragment.text ")"

/-- The opposite of the only operand. -/
def negation (op : Operator) : List Part → Compiled
  | [part] =>
    (Part.asCondition op "operand must be a condition" part).map fun f =>
      if f.isEmpty then f else Fragment.text (op.text ++ " (") ++ f ++ Fragment.text ")"
  | _ => Compiled.lift <| Operand.wrongCount op "exactly one operand"

/-- A column within or outside bounds. -/
def range (op : Operator) : List Part → Compiled
  | [column, low, high] => do
    let name ← Compiled.lift (column.asColumn op)
    let low ← Compiled.lift (low.asValue op)
    let high ← Compiled.lift (high.asValue op)
    .ok (Fragment.text (d.column name ++ " " ++ op.text ++ " ") ++ Fragment.slot low ++
      Fragment.text " AND " ++ Fragment.slot high)
  | _ => Compiled.lift <| Operand.wrongCount op "three operands"

/-- The membership of columns. -/
def membership (op : Operator) : List Part → Compiled
  | [left, right] => do
    let names ← Compiled.lift (left.memberColumns op)
    d.memberOf op names right
  | _ => Compiled.lift <| Operand.wrongCount op "two operands"

/-- A column that fits one pattern. -/
def fits (likeOp : LikeOp) (m : Operand.Matching) (v : Value) : Fragment :=
  Fragment.text (d.column m.column ++ " " ++ likeOp.keyword ++ " ") ++
    Fragment.slot (pattern m.escape v)

/-- A column that fits all patterns, or one of them. -/
def fitsAny (likeOp : LikeOp) (m : Operand.Matching) : Fragment :=
  match m.patterns with
  | [] => emptyList likeOp.negated
  | vs => Fragment.join (" " ++ likeOp.joiner.text ++ " ") (vs.map (d.fits likeOp m))

/-- A column that fits patterns, by the given operator; `op` is the one that errors
name. -/
def like (op : Operator) (likeOp : LikeOp) (parts : List Part) : Compiled :=
  (Compiled.lift (Operand.matching op parts)).map (d.fitsAny likeOp)

/-- Whether a query has a row. -/
def existence (op : Operator) : List Part → Compiled
  | [.query q] => q.map fun f => Fragment.text (op.text ++ " (") ++ f ++ Fragment.text ")"
  | [_] => Compiled.lift <| Operand.invalid op "operand must be a subquery"
  | _ => Compiled.lift <| Operand.wrongCount op "exactly one operand"

/-- A column compared with a value or a query. -/
def comparison (op : Operator) : List Part → Compiled
  | [column, right] => do
    let name ← Compiled.lift (column.asColumn op)
    let left := d.column name ++ " " ++ op.text ++ " "
    match right with
    | .query q => q.map fun f => Fragment.text (left ++ "(") ++ f ++ Fragment.text ")"
    | .value .null => .ok (Fragment.text (left ++ "NULL"))
    | _ => do
      let v ← Compiled.lift (right.asValue op)
      .ok (Fragment.text left ++ Fragment.slot v)
  | _ => Compiled.lift <| Operand.wrongCount op "two operands"

/-- A condition with an operator. -/
def operator (op : Operator) (parts : List Part) : Compiled :=
  match op with
  | .and | .or => junction op parts
  | .not => negation op parts
  | .between | .notBetween => d.range op parts
  | .isIn | .notIn => d.membership op parts
  | .like likeOp => d.like op likeOp parts
  | .hasRow | .hasNoRow => existence op parts
  | .compare _ => d.comparison op parts

/-- A column with the value that it must have. -/
def pair (column : String) : HashValue Compiled → Compiled
  | .list vs => .ok (d.listed .isIn column vs)
  | .query q => d.inQuery .isIn [column] q
  | .value .null => .ok (Fragment.text (d.column column ++ " IS NULL"))
  | .value v => .ok (Fragment.text (d.column column ++ "=") ++ Fragment.slot v)

/-- Columns with the values that they must have. -/
def hash (pairs : List (String × HashValue Compiled)) : Compiled :=
  (Compiled.sequence (pairs.map fun p => d.pair p.1 p.2)).map fun
    | [] => []
    | [f] => f
    | fs => Fragment.text "(" ++ Fragment.join ") AND (" fs ++ Fragment.text ")"

/-- One layer of a condition. -/
def conditionNode : ConditionNode Compiled Compiled → Compiled
  | .raw sql => .ok (Fragment.text sql)
  | .hash pairs => d.hash pairs
  | .operator op parts => d.operator op parts

end Dialect

end SqlCompose

import SqlCompose.Compile.Plain
import SqlCompose.Query.Operand
import SqlCompose.Session.Basic
/-!
# Writing conditions

How one layer of a condition is written, given the sessions that write the conditions
and queries inside it. Operands are checked in front of the first value that is bound,
and values are bound in the order in which their placeholders are written.
-/

namespace SqlCompose

namespace Session

/-- A value in a list of values: a placeholder, or the word `NULL`. -/
def entry (v : Value) : Session String :=
  if v.isNull then pure "NULL" else slot v

/-- The values of a row, in the order of some columns. -/
def tuple (names : List String) (row : List (String × Value)) : Session String := do
  let values ← names.mapM fun n => entry (Operand.valueIn row n)
  pure ("(" ++ Text.join ", " values ++ ")")

/-- The condition that no value satisfies, or no text at all if it is negated. -/
def emptyList (negated : Bool) : String :=
  if negated then "" else "0=1"

/-- The operand of a junction or a negation; text is taken as it is. -/
def ofOperand (op : Operator) (message : String) :
    Operand (Session String) (Session String) → Session String
  | .condition c => c
  | .expr sql => pure sql
  | _ => lift (Operand.invalid op message)

end Session

namespace Dialect

variable (d : Dialect)

/-- Writes a column with one of some values, or with none of them. -/
def writeListed (op : Operator) (column : String) (vs : List Value) : Session String := do
  let negated := op == .notIn
  match vs with
  | [] => pure (Session.emptyList negated)
  | [v] =>
    let value ← Session.entry v
    pure (d.column column ++ (if negated then "<>" else "=") ++ value)
  | _ =>
    let values ← vs.mapM Session.entry
    pure (d.column column ++ " " ++ op.text ++ " (" ++ Text.join ", " values ++ ")")

/-- Writes columns with one of the results of a query, or with none of them. -/
def writeInQuery (op : Operator) (names : List String) (query : Session String) :
    Session String := do
  let sql ← query
  pure (d.columnTuple names ++ " " ++ op.text ++ " (" ++ sql ++ ")")

/-- Writes columns with the values of one of some rows, or of none of them. -/
def writeInRows (op : Operator) (names : List String) (rows : List (List (String × Value))) :
    Session String := do
  let tuples ← rows.mapM (Session.tuple names)
  pure ("(" ++ d.columns names ++ ") " ++ op.text ++ " (" ++ Text.join ", " tuples ++ ")")

/-- Writes the membership of columns, for each shape of the right-hand side. -/
def writeMemberOf (op : Operator) (names : List String)
    (right : Operand (Session String) (Session String)) : Session String :=
  if names.isEmpty || right.listsNothing then pure (Session.emptyList (op == .notIn))
  else
    match right, names with
    | .query q, names => d.writeInQuery op names q
    | right, [name] => do
      let vs ← Session.lift (right.memberValues op name)
      d.writeListed op name vs
    | .rows rows, names => d.writeInRows op names rows
    | _, _ => Session.lift (Operand.invalid op "composite IN expects rows keyed by column")

/-! ### The operators -/

/-- Writes a junction: the operands that are any text, each in parentheses. -/
def writeJunction (op : Operator) (operands : List (Operand (Session String) (Session String))) :
    Session String := do
  let texts ← operands.mapM (Session.ofOperand op "operands must be conditions")
  let texts := texts.filter (!·.isEmpty)
  if texts.isEmpty then pure ""
  else pure ("(" ++ Text.join (") " ++ op.text ++ " (") texts ++ ")")

/-- Writes the opposite of the only operand. -/
def writeNegation (op : Operator) :
    List (Operand (Session String) (Session String)) → Session String
  | [operand] => do
    let sql ← Session.ofOperand op "operand must be a condition" operand
    if sql.isEmpty then pure sql else pure (op.text ++ " (" ++ sql ++ ")")
  | _ => Session.lift (Operand.wrongCount op "exactly one operand")

/-- Writes a column within or outside bounds. -/
def writeRange (op : Operator) :
    List (Operand (Session String) (Session String)) → Session String
  | [column, low, high] => do
    let name ← Session.lift (column.asColumn op)
    let low ← Session.lift (low.asValue op)
    let high ← Session.lift (high.asValue op)
    let low ← Session.slot low
    let high ← Session.slot high
    pure (d.column name ++ " " ++ op.text ++ " " ++ low ++ " AND " ++ high)
  | _ => Session.lift (Operand.wrongCount op "three operands")

/-- Writes the membership of columns. -/
def writeMembership (op : Operator) :
    List (Operand (Session String) (Session String)) → Session String
  | [left, right] => do
    let names ← Session.lift (left.memberColumns op)
    d.writeMemberOf op names right
  | _ => Session.lift (Operand.wrongCount op "two operands")

/-- Writes a column that fits one pattern. -/
def writeFits (likeOp : LikeOp) (m : Operand.Matching) (v : Value) : Session String := do
  let value ← Session.slot (pattern m.escape v)
  pure (d.column m.column ++ " " ++ likeOp.keyword ++ " " ++ value)

/-- Writes a column that fits patterns, by the given operator; `op` is the one that
errors name. -/
def writeLike (op : Operator) (likeOp : LikeOp)
    (operands : List (Operand (Session String) (Session String))) : Session String := do
  let m ← Session.lift (Operand.matching op operands)
  if m.patterns.isEmpty then pure (Session.emptyList likeOp.negated)
  else do
    let texts ← m.patterns.mapM (d.writeFits likeOp m)
    pure (Text.join (" " ++ likeOp.joiner.text ++ " ") texts)

/-- Writes whether a query has a row. -/
def writeExistence (op : Operator) :
    List (Operand (Session String) (Session String)) → Session String
  | [.query q] => do
    let sql ← q
    pure (op.text ++ " (" ++ sql ++ ")")
  | [_] => Session.lift (Operand.invalid op "operand must be a subquery")
  | _ => Session.lift (Operand.wrongCount op "exactly one operand")

/-- Writes a column compared with a value or a query. -/
def writeComparison (op : Operator) :
    List (Operand (Session String) (Session String)) → Session String
  | [column, right] => do
    let name ← Session.lift (column.asColumn op)
    match right with
    | .query q =>
      let sql ← q
      pure (d.column name ++ " " ++ op.text ++ " (" ++ sql ++ ")")
    | .value .null => pure (d.column name ++ " " ++ op.text ++ " NULL")
    | right =>
      let v ← Session.lift (right.asValue op)
      let value ← Session.slot v
      pure (d.column name ++ " " ++ op.text ++ " " ++ value)
  | _ => Session.lift (Operand.wrongCount op "two operands")

/-- Writes a condition with an operator. -/
def writeOperator (op : Operator) (operands : List (Operand (Session String) (Session String))) :
    Session String :=
  match op with
  | .and | .or => writeJunction op operands
  | .not => writeNegation op operands
  | .between | .notBetween => d.writeRange op operands
  | .isIn | .notIn => d.writeMembership op operands
  | .like likeOp => d.writeLike op likeOp operands
  | .hasRow | .hasNoRow => writeExistence op operands
  | .compare _ => d.writeComparison op operands

/-- Writes a column with the value that it must have. -/
def writePair (column : String) : HashValue (Session String) → Session String
  | .list vs => d.writeListed .isIn column vs
  | .query q => d.writeInQuery .isIn [column] q
  | .value .null => pure (d.column column ++ " IS NULL")
  | .value v => do
    let value ← Session.slot v
    pure (d.column column ++ "=" ++ value)

/-- Writes columns with the values that they must have, each in parentheses if there are
several. -/
def writeHash (pairs : List (String × HashValue (Session String))) : Session String := do
  let texts ← pairs.mapM fun p => d.writePair p.1 p.2
  match texts with
  | [] => pure ""
  | [sql] => pure sql
  | texts => pure ("(" ++ Text.join ") AND (" texts ++ ")")

/-- Writes one layer of a condition. -/
def writeConditionNode : ConditionNode (Session String) (Session String) → Session String
  | .raw sql => pure sql
  | .hash pairs => d.writeHash pairs
  | .operator op operands => d.writeOperator op operands

end Dialect

end SqlCompose

import SqlCompose.Query.Basic
/-!
# Building conditions

Conditions of the usual kinds, each with the operands that its operator asks for. The
general form, with any operator text and any operands, is `Condition.op`.
-/

namespace SqlCompose.Condition

/-- An operator named by a text, applied to operands. -/
def op (text : String) (operands : List (Operand Condition Query)) : Condition :=
  .operator (.parse text) operands

/-- A column with the value that it must have. -/
def eq (column : String) (v : HashValue Query) : Condition :=
  .hash [(column, v)]

/-- All of the conditions. -/
def and (cs : List Condition) : Condition :=
  .operator .and (cs.map .condition)

/-- One of the conditions. -/
def or (cs : List Condition) : Condition :=
  .operator .or (cs.map .condition)

/-- The opposite of a condition. -/
def not (c : Condition) : Condition :=
  .operator .not [.condition c]

/-- A column compared with a value by any operator. -/
def compare (text column : String) (v : Value) : Condition :=
  .operator (.compare (Text.upper text)) [.expr column, .value v]

/-- A column that differs from a value. -/
def ne (column : String) (v : Value) : Condition := compare "<>" column v

/-- A column above a value. -/
def gt (column : String) (v : Value) : Condition := compare ">" column v

/-- A column at or above a value. -/
def ge (column : String) (v : Value) : Condition := compare ">=" column v

/-- A column below a value. -/
def lt (column : String) (v : Value) : Condition := compare "<" column v

/-- A column at or below a value. -/
def le (column : String) (v : Value) : Condition := compare "<=" column v

/-- A column compared with the result of a query by any operator. -/
def compareQuery (text column : String) (q : Query) : Condition :=
  .operator (.compare (Text.upper text)) [.expr column, .query q]

/-- A column within bounds. -/
def between (column : String) (low high : Value) : Condition :=
  .operator .between [.expr column, .value low, .value high]

/-- A column outside bounds. -/
def notBetween (column : String) (low high : Value) : Condition :=
  .operator .notBetween [.expr column, .value low, .value high]

/-- A column with one of some values. -/
def isIn (column : String) (vs : List Value) : Condition :=
  .operator .isIn [.expr column, .values vs]

/-- A column with none of some values. -/
def notIn (column : String) (vs : List Value) : Condition :=
  .operator .notIn [.expr column, .values vs]

/-- A column with one of the results of a query. -/
def isInQuery (column : String) (q : Query) : Condition :=
  .operator .isIn [.expr column, .query q]

/-- A column with none of the results of a query. -/
def notInQuery (column : String) (q : Query) : Condition :=
  .operator .notIn [.expr column, .query q]

/-- Columns with the values of one of some rows. -/
def isInRows (columns : List String) (rows : List (List (String × Value))) : Condition :=
  .operator .isIn [.columns columns, .rows rows]

/-- A column that fits patterns, by any pattern operator and escaping. -/
def likeWith (likeOp : LikeOp) (column : String) (patterns : List Value) (escape : LikeEscape) :
    Condition :=
  .operator (.like likeOp) [.expr column, .values patterns, .escape escape]

/-- A column that contains all of some values. -/
def like (column : String) (vs : List Value) : Condition :=
  likeWith {} column vs .standard

/-- A column that contains none of some values. -/
def notLike (column : String) (vs : List Value) : Condition :=
  likeWith { negated := true } column vs .standard

/-- A column that contains one of some values. -/
def orLike (column : String) (vs : List Value) : Condition :=
  likeWith { joiner := .or } column vs .standard

/-- A column that fails to contain one of some values. -/
def orNotLike (column : String) (vs : List Value) : Condition :=
  likeWith { joiner := .or, negated := true } column vs .standard

/-- A query with a row. -/
def hasRow (q : Query) : Condition :=
  .operator .hasRow [.query q]

/-- A query without rows. -/
def hasNoRow (q : Query) : Condition :=
  .operator .hasNoRow [.query q]

/-- Whether a condition is visibly empty: no text or no pairs. A condition with an
operator is not, whatever its operands. -/
def isEmpty (c : Condition) : Bool :=
  match c.node with
  | .raw sql => sql.isEmpty
  | .hash pairs => pairs.isEmpty
  | .operator _ _ => false

end SqlCompose.Condition

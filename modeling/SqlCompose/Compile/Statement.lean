import SqlCompose.Compile.Clause
import SqlCompose.Query.Basic
/-!
# Compiling statements

A query compiled for a target is a fold over its layers (`Target.query`), and so is a
condition (`Target.condition`).
-/

namespace SqlCompose

namespace Target

variable (t : Target)

/-- A compiled query. -/
def query (q : Query) : Compiled :=
  Query.fold t.dialect.conditionNode t.queryNode q

/-- A compiled condition. -/
def condition (c : Condition) : Compiled :=
  Condition.fold t.dialect.conditionNode t.queryNode c

/-- An operand with its condition or query compiled. -/
def part (o : Operand Condition Query) : Part := o.map t.condition t.query

/-- A right-hand side with its query compiled. -/
def hashValue (v : HashValue Query) : HashValue Compiled := v.map t.query

/-- An entry of a select list with its query compiled. -/
def column (c : ColumnSpec Query) : ColumnSpec Compiled := c.map t.query

/-- A table with its query compiled. -/
def table (s : TableSpec Query) : TableSpec Compiled := s.map t.query

/-- A join with its condition and query compiled. -/
def join (j : Join Condition Query) : Join Compiled Compiled := j.map t.condition t.query

/-- A member of a union with its query compiled. -/
def unionMember (u : UnionMember Query) : UnionMember Compiled := u.map t.query

end Target

end SqlCompose

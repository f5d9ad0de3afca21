import SqlCompose.Query.Basic
import SqlCompose.Session.Clause
/-!
# Building statements

Writing a query is a fold over its layers (`Target.write`), and so is writing a
condition (`Target.writeCondition`). A whole statement binds the parameters of the
query and of all queries inside it before the first placeholder gets its name
(`Target.build`), so that no placeholder takes a name that the query uses.
-/

namespace SqlCompose

/-- A statement with named placeholders and their values. -/
structure Statement where
  sql : String
  params : Params

namespace Target

variable (t : Target)

/-- Writes a query. -/
def write (q : Query) : Session String :=
  Query.fold t.dialect.writeConditionNode t.writeQueryNode q

/-- Writes a condition. -/
def writeCondition (c : Condition) : Session String :=
  Condition.fold t.dialect.writeConditionNode t.writeQueryNode c

/-- The statement of a query over given parameters. -/
def build (q : Query) (seed : Params) : Except Error Statement :=
  let (sql, a) := (t.write q).runFrom (Allocator.new (q.collectParams seed))
  sql.map fun sql => ⟨sql, a.params⟩

end Target

end SqlCompose

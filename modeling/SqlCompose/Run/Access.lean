import SqlCompose.Query.Edit
import SqlCompose.Run.Connection
/-!
# Asking queries

An `Access` is a question put to a query, such as for all rows or for a sum. It fixes
the query that is compiled (`Access.query`) and how the answer is read (`Access.read`);
`Connection.ask` compiles, sends and reads. Aggregates are asked of the backend, and
the number of rows is the only answer that has to be of a certain form.
-/

namespace SqlCompose

/-- A question put to a query. The texts are SQL expressions. -/
inductive Access
  | all
  | one
  | column
  | scalar
  | count (expr : String)
  | sum (expr : String)
  | average (expr : String)
  | min (expr : String)
  | max (expr : String)

/-- The answer to a question. -/
inductive Answer
  | rows (rows : List Row)
  | row (row : Option Row)
  | values (values : List Value)
  | value (value : Option Value)
  | number (n : Int64)

namespace Access

/-- An aggregate function applied to an expression. -/
def call (function expr : String) : String := function ++ "(" ++ expr ++ ")"

/-- The query that is compiled for a question. -/
def query (q : Query) : Access → Query
  | all | one | column | scalar => q
  | count e => q.aggregate (call "COUNT" e)
  | sum e => q.aggregate (call "SUM" e)
  | average e => q.aggregate (call "AVG" e)
  | min e => q.aggregate (call "MIN" e)
  | max e => q.aggregate (call "MAX" e)

/-- The number of rows that a backend counted; no value counts as zero. -/
def readCount : Option Value → Except Error Int64
  | none | some .null => .ok 0
  | some v =>
    match v.asInt? with
    | some n => .ok n
    | none => .error (.decode "COUNT" ("expected an integer, got " ++ v.display))

/-- The answer in a result. -/
def read (r : ResultSet) : Access → Except Error Answer
  | all => .ok (.rows r.rows)
  | one => .ok (.row r.firstRow?)
  | column => .ok (.values r.firstColumn)
  | count _ => (readCount r.firstValue?).map .number
  | scalar | sum _ | average _ | min _ | max _ => .ok (.value r.firstValue?)

end Access

/-- Compiles the query for a question, sends it and reads the answer. -/
def Connection.ask (c : Connection) (backend : Backend) (q : Query) (a : Access) (t : Trace) :
    Except Error Answer × Trace :=
  match c.build (a.query q) t with
  | (.error e, t) => (.error e, t)
  | (.ok s, t) =>
    let (result, t) := c.execute backend s t
    (result.bind fun r => a.read r, t)

end SqlCompose

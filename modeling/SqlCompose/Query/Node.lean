import SqlCompose.Condition.LikeEscape
import SqlCompose.Condition.Operator
import SqlCompose.Params.Basic
/-!
# The layers of queries and conditions

Queries and conditions contain each other: a query has conditions, and a condition may
compare with a subquery. Here one layer of each is described, with the conditions and
queries inside it left open: `κ` stands for conditions and `θ` for queries. `map`
replaces what stands at the open places. `SqlCompose.Query.Basic` closes the two layers
over each other.
-/

namespace SqlCompose

variable {κ θ κ' θ' : Type}

/-- The direction of an ordering. -/
inductive SortOrder
  | asc
  | desc
deriving DecidableEq

/-- An entry of a select list. -/
inductive ColumnSpec (θ : Type)
  /-- A name or expression, perhaps with an alias written behind it. -/
  | bare (text : String)
  | aliased (name expr : String)
  | subquery (name : String) (query : θ)

/-- An entry of a list of tables. -/
inductive TableSpec (θ : Type)
  /-- A name, perhaps with an alias written behind it. -/
  | bare (text : String)
  | aliased (name table : String)
  | subquery (name : String) (query : θ)

/-- A joined table. -/
structure Join (κ θ : Type) where
  /-- The words in front of the table, such as `LEFT JOIN`. -/
  joinType : String
  table : Option (TableSpec θ)
  on : Option κ

/-- What a query is united with. -/
inductive UnionSource (θ : Type)
  | query (query : θ)
  | raw (sql : String)

/-- A member of a union. -/
structure UnionMember (θ : Type) where
  source : UnionSource θ
  /-- Whether equal rows are kept. -/
  all : Bool

/-- The right-hand side of a column of a hash condition. -/
inductive HashValue (θ : Type)
  | value (value : Value)
  | list (values : List Value)
  | query (query : θ)

/-- An operand of a condition. -/
inductive Operand (κ θ : Type)
  | condition (condition : κ)
  /-- A column name or SQL text; bound as a text where a value is expected. -/
  | expr (text : String)
  | columns (names : List String)
  | value (value : Value)
  | values (values : List Value)
  /-- Rows of values by column name. -/
  | rows (rows : List (List (String × Value)))
  | query (query : θ)
  | escape (escape : LikeEscape)

/-- One layer of a condition. -/
inductive ConditionNode (κ θ : Type)
  /-- SQL text, taken as it is. -/
  | raw (sql : String)
  /-- Columns with the values that they must have. -/
  | hash (pairs : List (String × HashValue θ))
  /-- An operator with its operands. -/
  | operator (op : Operator) (operands : List (Operand κ θ))

/-- One layer of a query: the clauses of a `SELECT` statement and the parameters that
its texts refer to. -/
structure QueryNode (κ θ : Type) where
  select : List (ColumnSpec θ) := []
  /-- A modifier behind `SELECT`. -/
  selectOption : Option String := none
  distinct : Bool := false
  tables : List (TableSpec θ) := []
  filter : Option κ := none
  joins : List (Join κ θ) := []
  groupBy : List String := []
  having : Option κ := none
  orderBy : List (String × SortOrder) := []
  limit : Option Int := none
  offset : Option Int := none
  unions : List (UnionMember θ) := []
  params : Params := {}

/-! ### Replacing what stands at the open places -/

/-- The same entry over another kind of query. -/
def ColumnSpec.map (g : θ → θ') : ColumnSpec θ → ColumnSpec θ'
  | bare text => bare text
  | aliased name expr => aliased name expr
  | subquery name q => subquery name (g q)

/-- The alias of an entry that has one of its own. -/
def ColumnSpec.alias? : ColumnSpec θ → Option String
  | bare _ => none
  | aliased name _ => some name
  | subquery name _ => some name

/-- The same entry over another kind of query. -/
def TableSpec.map (g : θ → θ') : TableSpec θ → TableSpec θ'
  | bare text => bare text
  | aliased name table => aliased name table
  | subquery name q => subquery name (g q)

/-- The same join over other conditions and queries. -/
def Join.map (f : κ → κ') (g : θ → θ') (j : Join κ θ) : Join κ' θ' :=
  ⟨j.joinType, j.table.map (·.map g), j.on.map f⟩

/-- The same source over another kind of query. -/
def UnionSource.map (g : θ → θ') : UnionSource θ → UnionSource θ'
  | query q => query (g q)
  | raw sql => raw sql

/-- The same member over another kind of query. -/
def UnionMember.map (g : θ → θ') (u : UnionMember θ) : UnionMember θ' :=
  ⟨u.source.map g, u.all⟩

/-- The same right-hand side over another kind of query. -/
def HashValue.map (g : θ → θ') : HashValue θ → HashValue θ'
  | value v => value v
  | list vs => list vs
  | query q => query (g q)

/-- The same operand over other conditions and queries. -/
def Operand.map (f : κ → κ') (g : θ → θ') : Operand κ θ → Operand κ' θ'
  | condition c => condition (f c)
  | expr text => expr text
  | columns names => columns names
  | value v => value v
  | values vs => values vs
  | rows rs => rows rs
  | query q => query (g q)
  | escape e => escape e

/-- The same layer over other conditions and queries. -/
def ConditionNode.map (f : κ → κ') (g : θ → θ') : ConditionNode κ θ → ConditionNode κ' θ'
  | raw sql => raw sql
  | hash pairs => hash (pairs.map fun p => (p.1, p.2.map g))
  | operator op operands => operator op (operands.map (·.map f g))

/-- The same layer over other conditions and queries. -/
def QueryNode.map (f : κ → κ') (g : θ → θ') (n : QueryNode κ θ) : QueryNode κ' θ' :=
  { select := n.select.map (·.map g)
    selectOption := n.selectOption
    distinct := n.distinct
    tables := n.tables.map (·.map g)
    filter := n.filter.map f
    joins := n.joins.map (·.map f g)
    groupBy := n.groupBy
    having := n.having.map f
    orderBy := n.orderBy
    limit := n.limit
    offset := n.offset
    unions := n.unions.map (·.map g)
    params := n.params }

/-! ### What stands at the open places -/

/-- The query of an entry. -/
def ColumnSpec.query? : ColumnSpec θ → Option θ
  | subquery _ q => some q
  | _ => none

/-- The query of an entry. -/
def TableSpec.query? : TableSpec θ → Option θ
  | subquery _ q => some q
  | _ => none

/-- The query of a member. -/
def UnionMember.query? (u : UnionMember θ) : Option θ :=
  match u.source with
  | .query q => some q
  | .raw _ => none

/-- The query of a right-hand side. -/
def HashValue.query? : HashValue θ → Option θ
  | query q => some q
  | _ => none

/-- The results that stand in one layer of a condition, in their order. -/
def ConditionNode.gather {γ : Type} : ConditionNode (List γ) (List γ) → List γ
  | raw _ => []
  | hash pairs => (pairs.filterMap fun p => p.2.query?).flatten
  | operator _ operands =>
    operands.flatMap fun
      | .condition c => c
      | .query q => q
      | _ => []

/-- The results that stand in one layer of a query: those of the select list, of the
tables, of the conditions on joined tables, of the other conditions and of the union. -/
def QueryNode.gather {γ : Type} (n : QueryNode (List γ) (List γ)) : List γ :=
  (n.select.filterMap ColumnSpec.query?).flatten ++
    (n.tables.filterMap TableSpec.query?).flatten ++
    ((n.joins.filterMap Join.table).filterMap TableSpec.query?).flatten ++
    (n.joins.filterMap Join.on).flatten ++
    n.filter.getD [] ++
    n.having.getD [] ++
    (n.unions.filterMap UnionMember.query?).flatten

end SqlCompose

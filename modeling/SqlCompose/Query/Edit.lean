import SqlCompose.Query.Basic
import SqlCompose.Query.Names
import SqlCompose.Query.Ordering
/-!
# Building queries

The steps by which a query is put together. Each returns a new query; a step that sets
a clause replaces it, and one that adds to a clause keeps what is there.
-/

namespace SqlCompose

/-- The entries of a select list in a text, separated by commas. -/
def ColumnSpec.parse {θ : Type} (text : String) : List (ColumnSpec θ) :=
  (Names.split text).map .bare

/-- The tables in a text, separated by commas. -/
def TableSpec.parse {θ : Type} (text : String) : List (TableSpec θ) :=
  (Names.split text).map .bare

/-- A select list in which an entry stands in the place of one with the same alias. -/
def ColumnSpec.replace {θ : Type} (name : String) (c : ColumnSpec θ) :
    List (ColumnSpec θ) → List (ColumnSpec θ)
  | [] => [c]
  | d :: rest => if d.alias? = some name then c :: rest else d :: replace name c rest

/-- A select list with one more entry. -/
def ColumnSpec.add {θ : Type} (cs : List (ColumnSpec θ)) (c : ColumnSpec θ) :
    List (ColumnSpec θ) :=
  match c.alias? with
  | some name => replace name c cs
  | none => cs ++ [c]

/-- A condition joined to one that may be there already. -/
def Condition.combine (op : Operator) (existing : Option Condition) (c : Condition) : Condition :=
  match existing with
  | none => c
  | some e => .operator op [.condition e, .condition c]

namespace Query

/-- Sets the select list. -/
def select (q : Query) (columns : List (ColumnSpec Query)) : Query :=
  ⟨{ q.node with select := columns }⟩

/-- Sets the select list and the modifier behind `SELECT`. -/
def selectWithOption (q : Query) (columns : List (ColumnSpec Query)) (option : String) : Query :=
  ⟨{ q.node with select := columns, selectOption := some option }⟩

/-- Adds to the select list. An entry with an alias of its own replaces the entry with
that alias. -/
def addSelect (q : Query) (columns : List (ColumnSpec Query)) : Query :=
  ⟨{ q.node with select := columns.foldl ColumnSpec.add q.node.select }⟩

/-- Sets whether equal rows are dropped. -/
def distinct (q : Query) (on : Bool) : Query :=
  ⟨{ q.node with distinct := on }⟩

/-- Sets the tables. -/
def from_ (q : Query) (tables : List (TableSpec Query)) : Query :=
  ⟨{ q.node with tables }⟩

/-- Adds a join with the first of the given tables, if there is one. -/
def join (q : Query) (joinType : String) (tables : List (TableSpec Query))
    (on : Option Condition) : Query :=
  ⟨{ q.node with joins := q.node.joins ++ [⟨joinType, tables.head?, on⟩] }⟩

/-- Adds an inner join. -/
def innerJoin (q : Query) (tables : List (TableSpec Query)) (on : Condition) : Query :=
  q.join "INNER JOIN" tables (some on)

/-- Adds a left join. -/
def leftJoin (q : Query) (tables : List (TableSpec Query)) (on : Condition) : Query :=
  q.join "LEFT JOIN" tables (some on)

/-- Adds a right join. -/
def rightJoin (q : Query) (tables : List (TableSpec Query)) (on : Condition) : Query :=
  q.join "RIGHT JOIN" tables (some on)

/-- Sets the condition on rows. -/
def filter (q : Query) (c : Condition) : Query :=
  ⟨{ q.node with filter := some c }⟩

/-- Asks for another condition on rows as well. -/
def andFilter (q : Query) (c : Condition) : Query :=
  q.filter (Condition.combine .and q.node.filter c)

/-- Admits another condition on rows instead. -/
def orFilter (q : Query) (c : Condition) : Query :=
  q.filter (Condition.combine .or q.node.filter c)

/-- Sets the condition on groups. -/
def having (q : Query) (c : Condition) : Query :=
  ⟨{ q.node with having := some c }⟩

/-- Asks for another condition on groups as well. -/
def andHaving (q : Query) (c : Condition) : Query :=
  q.having (Condition.combine .and q.node.having c)

/-- Admits another condition on groups instead. -/
def orHaving (q : Query) (c : Condition) : Query :=
  q.having (Condition.combine .or q.node.having c)

/-- Sets the grouping columns. -/
def groupBy (q : Query) (columns : List String) : Query :=
  ⟨{ q.node with groupBy := columns }⟩

/-- Adds grouping columns. -/
def addGroupBy (q : Query) (columns : List String) : Query :=
  ⟨{ q.node with groupBy := q.node.groupBy ++ columns }⟩

/-- Sets the ordering. -/
def orderBy (q : Query) (columns : List (String × SortOrder)) : Query :=
  ⟨{ q.node with orderBy := Ordering.merge [] columns }⟩

/-- Adds to the ordering. -/
def addOrderBy (q : Query) (columns : List (String × SortOrder)) : Query :=
  ⟨{ q.node with orderBy := Ordering.merge q.node.orderBy columns }⟩

/-- Sets the greatest number of rows; a negative one is none. -/
def limit (q : Query) (n : Option Int) : Query :=
  ⟨{ q.node with limit := n }⟩

/-- Sets the number of rows that are passed over; one below 1 is none. -/
def offset (q : Query) (n : Option Int) : Query :=
  ⟨{ q.node with offset := n }⟩

/-- Adds a member to the union. -/
def unionWith (q : Query) (source : UnionSource Query) (all : Bool) : Query :=
  ⟨{ q.node with unions := q.node.unions ++ [⟨source, all⟩] }⟩

/-- Sets the parameters. -/
def params (q : Query) (p : Params) : Query :=
  ⟨{ q.node with params := p }⟩

/-- Adds parameters; their values win over those that are there. -/
def addParams (q : Query) (p : Params) : Query :=
  q.params (q.node.params.merge p)

/-- Adds a parameter. -/
def addParam (q : Query) (name : String) (value : Value) : Query :=
  q.params (q.node.params.insert name value)

/-- Whether the rows of a query depend on its select list. -/
def dependsOnSelect (q : Query) : Bool :=
  q.node.distinct || !q.node.groupBy.isEmpty || q.node.having.isSome || !q.node.unions.isEmpty

/-- The query for an aggregate over the rows of a query. The aggregate takes the place
of the select list, without ordering and paging; a query whose rows depend on the
select list is kept as a whole and asked as a table. -/
def aggregate (q : Query) (expr : String) : Query :=
  if q.dependsOnSelect then
    (empty.select [.bare expr]).from_ [.subquery "c" q]
  else
    ⟨{ q.node with
        select := [.bare expr], selectOption := none, orderBy := [], limit := none,
        offset := none }⟩

end Query

end SqlCompose

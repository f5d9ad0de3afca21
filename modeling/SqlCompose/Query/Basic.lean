import SqlCompose.Query.Node
/-!
# Queries and conditions

A `Query` is a `SELECT` statement under construction and a `Condition` a predicate in
it. Each is a layer over conditions and queries, and `Query.fold` and `Condition.fold`
take a whole tree apart layer by layer, from the innermost outwards: what a query is
turned into is fixed by what one layer is turned into (`Query.fold_mk`,
`Condition.fold_mk`). Everything that is computed from a whole query is a fold.
-/

namespace SqlCompose

mutual
/-- A predicate for `WHERE`, `HAVING` or `ON`. -/
structure Condition where
  node : ConditionNode Condition Query

/-- A `SELECT` statement. -/
structure Query where
  node : QueryNode Condition Query
end

/-! ### Folding -/

section Fold

variable {α β : Type} (f : ConditionNode α β → α) (g : QueryNode α β → β)

mutual
/-- The value of a condition when `f` gives the value of a layer of a condition and `g`
that of a layer of a query. -/
def Condition.fold : Condition → α
  | ⟨n⟩ => f (foldConditionNode n)

/-- The value of a query when `f` gives the value of a layer of a condition and `g` that
of a layer of a query. -/
def Query.fold : Query → β
  | ⟨n⟩ => g (foldQueryNode n)

/-- A layer of a condition with its contents replaced by their values. -/
def foldConditionNode : ConditionNode Condition Query → ConditionNode α β
  | .raw sql => .raw sql
  | .hash pairs => .hash (foldPairs pairs)
  | .operator op operands => .operator op (foldOperands operands)

/-- The pairs of a hash condition with their queries replaced by their values. -/
def foldPairs : List (String × HashValue Query) → List (String × HashValue β)
  | [] => []
  | p :: ps => foldPair p :: foldPairs ps

/-- A pair of a hash condition with its query replaced by its value. -/
def foldPair : String × HashValue Query → String × HashValue β
  | (column, v) => (column, foldHashValue v)

/-- A right-hand side with its query replaced by its value. -/
def foldHashValue : HashValue Query → HashValue β
  | .value v => .value v
  | .list vs => .list vs
  | .query q => .query (Query.fold q)

/-- Operands with their contents replaced by their values. -/
def foldOperands : List (Operand Condition Query) → List (Operand α β)
  | [] => []
  | o :: os => foldOperand o :: foldOperands os

/-- An operand with its contents replaced by their values. -/
def foldOperand : Operand Condition Query → Operand α β
  | .condition c => .condition (Condition.fold c)
  | .expr text => .expr text
  | .columns names => .columns names
  | .value v => .value v
  | .values vs => .values vs
  | .rows rs => .rows rs
  | .query q => .query (Query.fold q)
  | .escape e => .escape e

/-- A layer of a query with its contents replaced by their values. -/
def foldQueryNode : QueryNode Condition Query → QueryNode α β
  | ⟨select, option, distinct, tables, filter, joins, groupBy, having, orderBy, limit, offset,
      unions, params⟩ =>
    ⟨foldColumns select, option, distinct, foldTables tables, foldCondition? filter,
      foldJoins joins, groupBy, foldCondition? having, orderBy, limit, offset,
      foldUnions unions, params⟩

/-- A select list with its queries replaced by their values. -/
def foldColumns : List (ColumnSpec Query) → List (ColumnSpec β)
  | [] => []
  | c :: cs => foldColumn c :: foldColumns cs

/-- An entry of a select list with its query replaced by its value. -/
def foldColumn : ColumnSpec Query → ColumnSpec β
  | .bare text => .bare text
  | .aliased name expr => .aliased name expr
  | .subquery name q => .subquery name (Query.fold q)

/-- A list of tables with their queries replaced by their values. -/
def foldTables : List (TableSpec Query) → List (TableSpec β)
  | [] => []
  | t :: ts => foldTable t :: foldTables ts

/-- A table with its query replaced by its value. -/
def foldTable : TableSpec Query → TableSpec β
  | .bare text => .bare text
  | .aliased name table => .aliased name table
  | .subquery name q => .subquery name (Query.fold q)

/-- A table, if there is one, with its query replaced by its value. -/
def foldTable? : Option (TableSpec Query) → Option (TableSpec β)
  | none => none
  | some t => some (foldTable t)

/-- A condition, if there is one, replaced by its value. -/
def foldCondition? : Option Condition → Option α
  | none => none
  | some c => some (Condition.fold c)

/-- Joins with their contents replaced by their values. -/
def foldJoins : List (Join Condition Query) → List (Join α β)
  | [] => []
  | j :: js => foldJoin j :: foldJoins js

/-- A join with its contents replaced by their values. -/
def foldJoin : Join Condition Query → Join α β
  | ⟨joinType, table, on⟩ => ⟨joinType, foldTable? table, foldCondition? on⟩

/-- The members of a union with their queries replaced by their values. -/
def foldUnions : List (UnionMember Query) → List (UnionMember β)
  | [] => []
  | u :: us => foldUnion u :: foldUnions us

/-- A member of a union with its query replaced by its value. -/
def foldUnion : UnionMember Query → UnionMember β
  | ⟨source, all⟩ => ⟨foldUnionSource source, all⟩

/-- The source of a member with its query replaced by its value. -/
def foldUnionSource : UnionSource Query → UnionSource β
  | .query q => .query (Query.fold q)
  | .raw sql => .raw sql
end

/-! ### A fold is one layer at a time -/

theorem foldHashValue_eq (v : HashValue Query) :
    foldHashValue f g v = v.map (Query.fold f g) := by
  cases v <;> simp [foldHashValue, HashValue.map]

theorem foldPairs_eq (ps : List (String × HashValue Query)) :
    foldPairs f g ps = ps.map fun p => (p.1, p.2.map (Query.fold f g)) := by
  induction ps with
  | nil => simp [foldPairs]
  | cons p ps ih =>
    obtain ⟨column, v⟩ := p
    simp [foldPairs, foldPair, foldHashValue_eq, ih]

theorem foldOperand_eq (o : Operand Condition Query) :
    foldOperand f g o = o.map (Condition.fold f g) (Query.fold f g) := by
  cases o <;> simp [foldOperand, Operand.map]

theorem foldOperands_eq (os : List (Operand Condition Query)) :
    foldOperands f g os = os.map (·.map (Condition.fold f g) (Query.fold f g)) := by
  induction os with
  | nil => simp [foldOperands]
  | cons o os ih => simp [foldOperands, foldOperand_eq, ih]

theorem foldColumns_eq (cs : List (ColumnSpec Query)) :
    foldColumns f g cs = cs.map (·.map (Query.fold f g)) := by
  induction cs with
  | nil => simp [foldColumns]
  | cons c cs ih => cases c <;> simp [foldColumns, foldColumn, ColumnSpec.map, ih]

theorem foldTable_eq (t : TableSpec Query) :
    foldTable f g t = t.map (Query.fold f g) := by
  cases t <;> simp [foldTable, TableSpec.map]

theorem foldTables_eq (ts : List (TableSpec Query)) :
    foldTables f g ts = ts.map (·.map (Query.fold f g)) := by
  induction ts with
  | nil => simp [foldTables]
  | cons t ts ih => simp [foldTables, foldTable_eq, ih]

theorem foldTable?_eq (t : Option (TableSpec Query)) :
    foldTable? f g t = t.map (·.map (Query.fold f g)) := by
  cases t <;> simp [foldTable?, foldTable_eq]

theorem foldCondition?_eq (c : Option Condition) :
    foldCondition? f g c = c.map (Condition.fold f g) := by
  cases c <;> simp [foldCondition?]

theorem foldJoins_eq (js : List (Join Condition Query)) :
    foldJoins f g js = js.map (·.map (Condition.fold f g) (Query.fold f g)) := by
  induction js with
  | nil => simp [foldJoins]
  | cons j js ih =>
    cases j
    simp [foldJoins, foldJoin, Join.map, foldTable?_eq, foldCondition?_eq, ih]

theorem foldUnions_eq (us : List (UnionMember Query)) :
    foldUnions f g us = us.map (·.map (Query.fold f g)) := by
  induction us with
  | nil => simp [foldUnions]
  | cons u us ih =>
    obtain ⟨source, all⟩ := u
    cases source <;>
      simp [foldUnions, foldUnion, foldUnionSource, UnionMember.map, UnionSource.map, ih]

/-- Folding a condition folds its contents and then its outermost layer. -/
theorem Condition.fold_mk (n : ConditionNode Condition Query) :
    Condition.fold f g ⟨n⟩ = f (n.map (Condition.fold f g) (Query.fold f g)) := by
  cases n <;>
    simp [Condition.fold, foldConditionNode, ConditionNode.map, foldPairs_eq, foldOperands_eq]

/-- Folding a query folds its contents and then its outermost layer. -/
theorem Query.fold_mk (n : QueryNode Condition Query) :
    Query.fold f g ⟨n⟩ = g (n.map (Condition.fold f g) (Query.fold f g)) := by
  cases n
  simp [Query.fold, foldQueryNode, QueryNode.map, foldColumns_eq, foldTables_eq, foldJoins_eq,
    foldCondition?_eq, foldUnions_eq]

end Fold

/-! ### Building queries and conditions -/

namespace Condition

/-- SQL text as a condition. -/
def raw (sql : String) : Condition := ⟨.raw sql⟩

/-- Columns with the values that they must have. -/
def hash (pairs : List (String × HashValue Query)) : Condition := ⟨.hash pairs⟩

/-- An operator applied to operands, whose number and shape are checked when the
condition is compiled. -/
def operator (op : Operator) (operands : List (Operand Condition Query)) : Condition :=
  ⟨.operator op operands⟩

end Condition

namespace Query

/-- The query for all columns of nothing. -/
def empty : Query := ⟨{}⟩

/-- The parameters of a query and of the queries inside it, its own first. -/
def paramsInside (q : Query) : List Params :=
  Query.fold ConditionNode.gather (fun n => n.params :: n.gather) q

/-- Parameters overlaid with those of a query and of the queries inside it. -/
def collectParams (q : Query) (seed : Params) : Params :=
  q.paramsInside.foldl Params.merge seed

end Query

end SqlCompose

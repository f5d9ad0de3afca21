import SqlCompose.Compile.Condition
/-!
# Compiling clauses

What the clauses of one layer of a query turn into when the conditions and queries
inside it have been compiled. A clause without content is no text at all.
-/

namespace SqlCompose

namespace Dialect

variable (d : Dialect)

/-- An entry of a select list. -/
def selectEntry : ColumnSpec Compiled → Compiled
  | .subquery name q =>
    q.map fun f => Fragment.text "(" ++ f ++ Fragment.text (") AS " ++ d.quoteColumn name)
  | .aliased name expr => .ok (Fragment.text (d.aliasedColumn name expr))
  | .bare text => .ok (Fragment.text (d.bareColumn text))

/-- The select clause. -/
def selectClause (columns : List (ColumnSpec Compiled)) (distinct : Bool)
    (option : Option String) : Compiled :=
  match columns with
  | [] => .ok (Fragment.text (selectHead distinct option ++ " *"))
  | columns =>
    (Compiled.sequence (columns.map d.selectEntry)).map fun fs =>
      Fragment.text (selectHead distinct option ++ " ") ++ Fragment.join ", " fs

/-- An entry of a list of tables. -/
def tableEntry : TableSpec Compiled → Compiled
  | .subquery name q =>
    q.map fun f => Fragment.text "(" ++ f ++ Fragment.text (") " ++ d.quoteTable name)
  | .aliased name table => .ok (Fragment.text (d.aliasedTable name table))
  | .bare text => .ok (Fragment.text (d.bareTable text))

/-- The entries of a list of tables. -/
def tableEntries (tables : List (TableSpec Compiled)) : Except Rejection (List Fragment) :=
  Compiled.sequence (tables.map d.tableEntry)

/-- The clause that names the tables. -/
def fromClause (tables : List (TableSpec Compiled)) : Compiled :=
  match tables with
  | [] => .ok []
  | tables => (d.tableEntries tables).map fun fs => Fragment.text "FROM " ++ Fragment.join ", " fs

/-- A condition behind a keyword; no text without a restriction. -/
def keywordClause (keyword : String) (condition : Option Compiled) : Compiled :=
  match condition with
  | none => .ok []
  | some c => c.map fun f => if f.isEmpty then f else Fragment.text keyword ++ f

/-- One join. -/
def joinEntry (j : Join Compiled Compiled) : Compiled :=
  let words := Text.trim j.joinType
  match j.table with
  | none => Compiled.reject joinError
  | some table =>
    if words.isEmpty then Compiled.reject joinError
    else
      (Compiled.sequence [d.tableEntry table, keywordClause " ON " j.on]).map fun
        | [f, on] => Fragment.text (words ++ " ") ++ f ++ on
        | _ => []

/-- A join of a blank type is refused. -/
theorem joinEntry_of_blank {joinType : String} (h : (Text.trim joinType).isEmpty = true)
    (s : TableSpec Compiled) (on : Option Compiled) :
    d.joinEntry ⟨joinType, some s, on⟩ = Compiled.reject joinError :=
  if_pos h

/-- A join of any other type is its table, and its condition behind that. -/
theorem joinEntry_of_not_blank {joinType : String} (h : (Text.trim joinType).isEmpty = false)
    (s : TableSpec Compiled) (on : Option Compiled) :
    d.joinEntry ⟨joinType, some s, on⟩ =
      (Compiled.sequence [d.tableEntry s, keywordClause " ON " on]).map fun
        | [f, on] => Fragment.text (Text.trim joinType ++ " ") ++ f ++ on
        | _ => [] :=
  if_neg (ne_true_of_eq_false h)

/-- The condition on rows. -/
def whereClause (condition : Option Compiled) : Compiled :=
  keywordClause "WHERE " condition

/-- The condition on groups. -/
def havingClause (condition : Option Compiled) : Compiled :=
  keywordClause "HAVING " condition

/-- A member of a union. -/
def unionEntry (u : UnionMember Compiled) : Compiled :=
  let body : Compiled :=
    match u.source with
    | .query q => q
    | .raw sql => .ok (Fragment.text sql)
  body.map fun f =>
    Fragment.text (unionHead u.all) ++ f ++ Fragment.text " )"

/-- The members of a union. -/
def unionClause (unions : List (UnionMember Compiled)) : Compiled :=
  (Compiled.sequence (unions.map unionEntry)).map (Fragment.join " ")

end Dialect

namespace Target

variable (t : Target)

/-- The joins. -/
def joinClause (joins : List (Join Compiled Compiled)) : Compiled :=
  (Compiled.sequence (joins.map t.dialect.joinEntry)).map (Fragment.join t.separator)

/-- A statement behind which a clause follows, if that is any text. -/
def followedBy (f : Fragment) (clause : String) : Fragment :=
  if clause.isEmpty then f else f ++ Fragment.text (t.separator ++ clause)

/-- One layer of a query: its clauses, then ordering and paging, and the union around
all of it. -/
def queryNode (n : QueryNode Compiled Compiled) : Compiled :=
  let d := t.dialect
  (Compiled.sequence
    [d.selectClause n.select n.distinct n.selectOption, d.fromClause n.tables,
     t.joinClause n.joins, Dialect.whereClause n.filter,
     .ok (Fragment.text (d.groupByClause n.groupBy)), Dialect.havingClause n.having,
     Dialect.unionClause n.unions]).map fun
    | [select, tables, joins, rows, groups, having, union] =>
      let clauses := [select, tables, joins, rows, groups, having].filter (!·.isEmpty)
      let body := Fragment.join t.separator clauses
      let body := t.followedBy body (d.orderByClause n.orderBy)
      let body := t.followedBy body (Dialect.limitClause n.limit n.offset)
      if union.isEmpty then body
      else Fragment.text "(" ++ body ++ Fragment.text (")" ++ t.separator) ++ union
    | _ => []

end Target

end SqlCompose

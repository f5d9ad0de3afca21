import SqlCompose.Session.Condition
/-!
# Writing clauses

How one layer of a query is written, given the sessions that write the conditions and
queries inside it: clause by clause, the union last. A clause without content is no
text, and separators stand only between clauses that are.
-/

namespace SqlCompose

namespace Dialect

variable (d : Dialect)

/-- Writes an entry of a select list. -/
def writeSelectEntry : ColumnSpec (Session String) → Session String
  | .subquery name q => do
    let sql ← q
    pure ("(" ++ sql ++ ") AS " ++ d.quoteColumn name)
  | .aliased name expr => pure (d.aliasedColumn name expr)
  | .bare text => pure (d.bareColumn text)

/-- Writes the select clause. -/
def writeSelectClause (columns : List (ColumnSpec (Session String))) (distinct : Bool)
    (option : Option String) : Session String := do
  let head := selectHead distinct option
  if columns.isEmpty then pure (head ++ " *")
  else do
    let texts ← columns.mapM d.writeSelectEntry
    pure (head ++ " " ++ Text.join ", " texts)

/-- Writes an entry of a list of tables. -/
def writeTableEntry : TableSpec (Session String) → Session String
  | .subquery name q => do
    let sql ← q
    pure ("(" ++ sql ++ ") " ++ d.quoteTable name)
  | .aliased name table => pure (d.aliasedTable name table)
  | .bare text => pure (d.bareTable text)

/-- Writes the clause that names the tables. -/
def writeFromClause (tables : List (TableSpec (Session String))) : Session String :=
  if tables.isEmpty then pure ""
  else do
    let texts ← tables.mapM d.writeTableEntry
    pure ("FROM " ++ Text.join ", " texts)

/-- Writes a condition behind a keyword; no text without a restriction. -/
def writeKeyword (keyword : String) (condition : Option (Session String)) : Session String :=
  match condition with
  | none => pure ""
  | some c => do
    let sql ← c
    if sql.isEmpty then pure sql else pure (keyword ++ sql)

/-- Writes one join. -/
def writeJoinEntry (j : Join (Session String) (Session String)) : Session String :=
  let words := Text.trim j.joinType
  match j.table with
  | none => throw joinError
  | some table =>
    if words.isEmpty then throw joinError
    else do
      let target ← d.writeTableEntry table
      let on ← writeKeyword " ON " j.on
      pure (words ++ " " ++ target ++ on)

/-- Writes a member of a union. -/
def writeUnionEntry (u : UnionMember (Session String)) : Session String := do
  let sql ←
    match u.source with
    | .query q => q
    | .raw sql => pure sql
  pure (unionHead u.all ++ sql ++ " )")

/-- Writes the members of a union. -/
def writeUnionClause (unions : List (UnionMember (Session String))) : Session String := do
  let texts ← unions.mapM writeUnionEntry
  pure (Text.join " " texts)

end Dialect

namespace Target

variable (t : Target)

/-- Writes the joins. -/
def writeJoinClause (joins : List (Join (Session String) (Session String))) :
    Session String := do
  let texts ← joins.mapM t.dialect.writeJoinEntry
  pure (Text.join t.separator texts)

/-- A text behind which a clause follows, if that is any text. -/
def textFollowedBy (sql clause : String) : String :=
  if clause.isEmpty then sql else sql ++ t.separator ++ clause

/-- Writes one layer of a query: its clauses, then ordering and paging, and the union
around all of it. -/
def writeQueryNode (n : QueryNode (Session String) (Session String)) : Session String := do
  let d := t.dialect
  let select ← d.writeSelectClause n.select n.distinct n.selectOption
  let tables ← d.writeFromClause n.tables
  let joins ← t.writeJoinClause n.joins
  let rows ← Dialect.writeKeyword "WHERE " n.filter
  let groups := d.groupByClause n.groupBy
  let having ← Dialect.writeKeyword "HAVING " n.having
  let clauses := [select, tables, joins, rows, groups, having].filter (!·.isEmpty)
  let body := Text.join t.separator clauses
  let body := t.textFollowedBy body (d.orderByClause n.orderBy)
  let body := t.textFollowedBy body (Dialect.limitClause n.limit n.offset)
  let union ← Dialect.writeUnionClause n.unions
  if union.isEmpty then pure body else pure ("(" ++ body ++ ")" ++ t.separator ++ union)

end Target

end SqlCompose

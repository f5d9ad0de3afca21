import SqlCompose.Compile.Alias
import SqlCompose.Dialect.Basic
import SqlCompose.Query.Node
/-!
# Text without values

The parts of a statement in which no value can stand: names with and without aliases,
the head of the select clause, grouping, ordering and paging. They depend on the
dialect alone.
-/

namespace SqlCompose

/-- What a query is compiled for: a dialect, and the text between clauses. -/
structure Target where
  dialect : Dialect
  separator : String := " "

namespace Dialect

variable (d : Dialect)

/-- Quotes a column, unless it is an expression. -/
def column (name : String) : String :=
  if isExpression name then name else d.quoteColumn name

/-- Quotes columns and lists them. -/
def columns (names : List String) : String :=
  Text.join ", " (names.map d.column)

/-- Quotes a table, unless it is an expression. -/
def table (name : String) : String :=
  if isExpression name then name else d.quoteTable name

/-- The columns in front of the query of a membership: one alone, several in
parentheses. -/
def columnTuple : List String → String
  | [name] => d.column name
  | names => "(" ++ d.columns names ++ ")"

/-! ### Aliases -/

/-- An expression with an alias in a select list. -/
def aliasedColumn (name expr : String) : String :=
  d.column expr ++ " AS " ++ d.quoteColumn name

/-- A name or an expression in a select list, perhaps with an alias written behind it. -/
def bareColumn (text : String) : String :=
  if isExpression text then text
  else
    match Alias.ofColumn? text with
    | some (expr, name) => d.quoteColumn expr ++ " AS " ++ d.quoteColumn name
    | none => d.quoteColumn text

/-- A table with an alias. -/
def aliasedTable (name table : String) : String :=
  d.table table ++ " " ++ d.quoteTable name

/-- A name or an expression in a list of tables, perhaps with an alias written behind
it. -/
def bareTable (text : String) : String :=
  if isExpression text then text
  else
    match Alias.ofTable? text with
    | some (table, name) => d.quoteTable table ++ " " ++ d.quoteTable name
    | none => d.quoteTable text

/-! ### Clauses -/

/-- What stands in front of a select list. -/
def selectHead (distinct : Bool) (option : Option String) : String :=
  (if distinct then "SELECT DISTINCT" else "SELECT") ++
    match option with
    | some text => " " ++ text
    | none => ""

/-- The grouping. -/
def groupByClause (names : List String) : String :=
  if names.isEmpty then "" else "GROUP BY " ++ d.columns names

/-- A column with its direction. -/
def ordered (e : String × SortOrder) : String :=
  match e.2 with
  | .asc => d.quoteColumn e.1
  | .desc => d.quoteColumn e.1 ++ " DESC"

/-- The ordering. -/
def orderByClause (ordering : List (String × SortOrder)) : String :=
  if ordering.isEmpty then "" else "ORDER BY " ++ Text.join ", " (ordering.map d.ordered)

/-- The paging: a limit that is not negative and an offset that is positive. -/
def limitClause (limit offset : Option Int) : String :=
  let words :=
    (match limit with
      | some n => if 0 ≤ n then ["LIMIT " ++ toString n] else []
      | none => []) ++
    (match offset with
      | some n => if 0 < n then ["OFFSET " ++ toString n] else []
      | none => [])
  Text.join " " words

/-- What stands in front of a member of a union. -/
def unionHead (all : Bool) : String :=
  (if all then "UNION ALL " else "UNION ") ++ "( "

/-- The error of a join without a type or a table. -/
def joinError : Error :=
  .invalidJoin ("A join clause must be specified as a join type, a join table, " ++
    "and optionally a join condition.")

/-- The pattern for a value. -/
def pattern (escape : LikeEscape) (v : Value) : Value :=
  if escape.wraps then .string ("%" ++ escape.apply v.display ++ "%") else v

end Dialect

end SqlCompose

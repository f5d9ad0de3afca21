import SqlCompose.ColumnType
import SqlCompose.Params.Positional
import SqlCompose.Text.Basic
/-!
# Dialects

A `Dialect` is what one backend wants of SQL text: how a part of a name is quoted, what
its physical types are, how it marks positional parameters, and how it writes the
statements on which backends differ. The portable form of such a statement is the
default of its field; where there is none the dialect does not have the statement.

Names are quoted part by part (`Dialect.quoteTable`, `Dialect.quoteColumn`). Text that
is recognisably an expression, or that is marked as quoted already, stays as it is.
-/

namespace SqlCompose

/-- How a backend turns checks of references on and off. -/
inductive IntegrityCheck
  /-- Not at all. -/
  | none
  /-- For the whole session. -/
  | session (statement : Bool → String)
  /-- For one table, whose quoted name the statement takes. -/
  | table (statement : Bool → String → String) (missing : String)

/-- What a backend wants of SQL text. The statements take quoted names and physical
types. -/
structure Dialect where
  name : String
  /-- Quotes one part of the name of a table. -/
  quoteTablePart : String → String
  /-- Quotes the last part of the name of a column. -/
  quoteColumnPart : String → String
  physicalType : ColumnType → String
  placeholderStyle : PlaceholderStyle
  renameTable : (old new : String) → String :=
    fun old new => "RENAME TABLE " ++ old ++ " TO " ++ new
  renameColumn : (table old new type : String) → String :=
    fun table old new _ => "ALTER TABLE " ++ table ++ " RENAME COLUMN " ++ old ++ " TO " ++ new
  alterColumn : (table column type : String) → String :=
    fun table column type =>
      "ALTER TABLE " ++ table ++ " CHANGE " ++ column ++ " " ++ column ++ " " ++ type
  createIndex : (name table columns : String) → Bool → String :=
    fun name table columns unique =>
      (if unique then "CREATE UNIQUE INDEX" else "CREATE INDEX") ++ " " ++ name ++ " ON " ++
        table ++ " (" ++ columns ++ ")"
  dropIndex : (name table : String) → String :=
    fun name table => "DROP INDEX " ++ name ++ " ON " ++ table
  /-- Restarts the counter of a table, at one if no number is given. -/
  resetSequence : Option (String → Option Int → String) := .none
  integrityCheck : IntegrityCheck := .none

namespace Dialect

/-- Whether a name is an expression rather than a name. -/
def isExpression (name : String) : Bool := Text.has '(' name

/-- Whether the name of a table is left as it is. -/
def keepsTable (name : String) : Bool :=
  isExpression name || Text.contains "\x7b\x7b" name

/-- Whether the name of a column is left as it is. -/
def keepsColumn (name : String) : Bool :=
  isExpression name || Text.contains "[[" name || Text.contains "\x7b\x7b" name

/-- Quotes the name of a table, part by part. -/
def quoteTable (d : Dialect) (name : String) : String :=
  if keepsTable name then name
  else Text.join "." ((Text.split '.' name).map d.quoteTablePart)

/-- Quotes the name of a column; what stands before its last point is the name of a
table. -/
def quoteColumn (d : Dialect) (name : String) : String :=
  if keepsColumn name then name
  else
    match Text.splitLast? '.' name with
    | some (table, column) => d.quoteTable table ++ "." ++ d.quoteColumnPart column
    | none => d.quoteColumnPart name

/-- A part of a name between two quote characters, unless it has one already. -/
def wrapTablePart (quote : Char) (part : String) : String :=
  if Text.has quote part then part
  else String.ofList [quote] ++ part ++ String.ofList [quote]

/-- A part of a name between two quote characters, unless it has one already or stands
for all columns. -/
def wrapColumnPart (quote : Char) (part : String) : String :=
  if part = "*" then part else wrapTablePart quote part

end Dialect

end SqlCompose

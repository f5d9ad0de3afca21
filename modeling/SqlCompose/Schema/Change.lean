import SqlCompose.Compile.Plain
import SqlCompose.Schema.TypeText
/-!
# Changes of a schema

A `SchemaChange` is one statement about tables, columns, keys and indexes, and
`SchemaChange.write` is its text in a dialect. Names are given without quotes and types
as type texts. A statement that the dialect does not have is an error; so is a check of
references without a table where they are checked table by table.
-/

namespace SqlCompose

/-- A statement about a schema. -/
inductive SchemaChange
  /-- A table with its columns, each with its type, and the options behind them. A
  column without a name is a line of the definition, taken as it is. -/
  | createTable (table : String) (columns : List (String × String)) (options : Option String)
  | renameTable (old new : String)
  | dropTable (table : String)
  | truncateTable (table : String)
  | addColumn (table column type : String)
  | dropColumn (table column : String)
  | renameColumn (table old new type : String)
  | alterColumn (table column type : String)
  | addPrimaryKey (name table : String) (columns : List String)
  | dropPrimaryKey (name table : String)
  /-- A reference to the columns of another table, with what is done when they are
  deleted and updated. -/
  | addForeignKey (name table : String) (columns : List String) (target : String)
      (targetColumns : List String) (onDelete onUpdate : Option String)
  | dropForeignKey (name table : String)
  | createIndex (name table : String) (columns : List String) (unique : Bool)
  | dropIndex (name table : String)
  /-- Restarts the counter of a table. -/
  | resetSequence (table : String) (value : Option Int)
  /-- Turns the checks of references on or off. -/
  | checkIntegrity (check : Bool) (schema table : String)

namespace SchemaChange

/-- The beginning of a statement about a table. -/
def alter (d : Dialect) (table : String) : String :=
  "ALTER TABLE " ++ d.quoteTable table

/-- A line of the definition of a table. -/
def definitionLine (d : Dialect) (column : String × String) : String :=
  "\t" ++
    if column.1.isEmpty then column.2
    else d.quoteColumn column.1 ++ " " ++ d.resolveType column.2

/-- Words behind a keyword, if there are any. -/
def clause (keyword : String) : Option String → String
  | some words => keyword ++ words
  | none => ""

/-- The statement that drops a key. -/
def dropConstraint (d : Dialect) (name table : String) : String :=
  alter d table ++ " DROP CONSTRAINT " ++ d.quoteColumn name

/-- The statement that turns the checks of references on or off. -/
def writeCheck (d : Dialect) (check : Bool) (schema table : String) : Except Error String :=
  match d.integrityCheck with
  | .none => .error (.notSupported d.name "check_integrity")
  | .session statement => .ok (statement check)
  | .table statement missing =>
    if table.isEmpty then .error (.validation missing)
    else
      let name := if schema.isEmpty then table else schema ++ "." ++ table
      .ok (statement check (d.quoteTable name))

/-- The text of a statement. -/
def write (d : Dialect) : SchemaChange → Except Error String
  | createTable table columns options =>
    .ok ("CREATE TABLE " ++ d.quoteTable table ++ " (\n" ++
      Text.join ",\n" (columns.map (definitionLine d)) ++ "\n)" ++ clause " " options)
  | renameTable old new => .ok (d.renameTable (d.quoteTable old) (d.quoteTable new))
  | dropTable table => .ok ("DROP TABLE " ++ d.quoteTable table)
  | truncateTable table => .ok ("TRUNCATE TABLE " ++ d.quoteTable table)
  | addColumn table column type =>
    .ok (alter d table ++ " ADD " ++ d.quoteColumn column ++ " " ++ d.resolveType type)
  | dropColumn table column => .ok (alter d table ++ " DROP COLUMN " ++ d.quoteColumn column)
  | renameColumn table old new type =>
    .ok (d.renameColumn (d.quoteTable table) (d.quoteColumn old) (d.quoteColumn new)
      (d.resolveType type))
  | alterColumn table column type =>
    .ok (d.alterColumn (d.quoteTable table) (d.quoteColumn column) (d.resolveType type))
  | addPrimaryKey name table columns =>
    .ok (alter d table ++ " ADD CONSTRAINT " ++ d.quoteColumn name ++ " PRIMARY KEY (" ++
      d.columns columns ++ ")")
  | dropPrimaryKey name table => .ok (dropConstraint d name table)
  | addForeignKey name table columns target targetColumns onDelete onUpdate =>
    .ok (alter d table ++ " ADD CONSTRAINT " ++ d.quoteColumn name ++ " FOREIGN KEY (" ++
      d.columns columns ++ ") REFERENCES " ++ d.quoteTable target ++ " (" ++
      d.columns targetColumns ++ ")" ++ clause " ON DELETE " onDelete ++
      clause " ON UPDATE " onUpdate)
  | dropForeignKey name table => .ok (dropConstraint d name table)
  | createIndex name table columns unique =>
    .ok (d.createIndex (d.quoteTable name) (d.quoteTable table) (d.columns columns) unique)
  | dropIndex name table => .ok (d.dropIndex (d.quoteTable name) (d.quoteTable table))
  | resetSequence table value =>
    match d.resetSequence with
    | some statement => .ok (statement (d.quoteTable table) value)
    | none => .error (.notSupported d.name "reset_sequence")
  | checkIntegrity check schema table => writeCheck d check schema table

end SchemaChange

end SqlCompose

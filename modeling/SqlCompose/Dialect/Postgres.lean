import SqlCompose.Dialect.Basic
/-!
# The PostgreSQL dialect

Names stand between double quotes and parameters are numbered.
-/

namespace SqlCompose.Dialect

/-- The physical types of PostgreSQL. -/
def postgresType : ColumnType → String
  | .pk => "serial NOT NULL PRIMARY KEY"
  | .bigPk => "bigserial NOT NULL PRIMARY KEY"
  | .string => "varchar(255)"
  | .text => "text"
  | .smallInt => "smallint"
  | .integer => "integer"
  | .bigInt => "bigint"
  | .float => "double precision"
  | .double => "double precision"
  | .decimal => "numeric(10,0)"
  | .dateTime => "timestamp(0)"
  | .timestamp => "timestamp(0)"
  | .time => "time(0)"
  | .date => "date"
  | .binary => "bytea"
  | .boolean => "boolean"
  | .money => "numeric(19,4)"

/-- The dialect of PostgreSQL. -/
def postgres : Dialect where
  name := "PostgreSQL"
  quoteTablePart := wrapTablePart '\x22'
  quoteColumnPart := wrapColumnPart '\x22'
  physicalType := postgresType
  placeholderStyle := .dollar
  renameTable old new := "ALTER TABLE " ++ old ++ " RENAME TO " ++ new
  alterColumn table column type :=
    "ALTER TABLE " ++ table ++ " ALTER COLUMN " ++ column ++ " TYPE " ++ type
  dropIndex name _ := "DROP INDEX " ++ name
  integrityCheck := .table
    (fun check table =>
      "ALTER TABLE " ++ table ++ (if check then " ENABLE" else " DISABLE") ++ " TRIGGER ALL")
    "PostgreSQL integrity checks are toggled per table; a table name is required"

end SqlCompose.Dialect

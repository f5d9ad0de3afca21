import SqlCompose.Dialect.Basic
/-!
# The MySQL dialect

Names stand between backticks and parameters are question marks.
-/

namespace SqlCompose.Dialect

/-- The physical types of MySQL. -/
def mysqlType : ColumnType → String
  | .pk => "int(11) NOT NULL AUTO_INCREMENT PRIMARY KEY"
  | .bigPk => "bigint(20) NOT NULL AUTO_INCREMENT PRIMARY KEY"
  | .string => "varchar(255)"
  | .text => "text"
  | .smallInt => "smallint(6)"
  | .integer => "int(11)"
  | .bigInt => "bigint(20)"
  | .float => "float"
  | .double => "double"
  | .decimal => "decimal(10,0)"
  | .dateTime => "datetime"
  | .timestamp => "timestamp"
  | .time => "time"
  | .date => "date"
  | .binary => "blob"
  | .boolean => "tinyint(1)"
  | .money => "decimal(19,4)"

/-- The dialect of MySQL. -/
def mysql : Dialect where
  name := "MySQL"
  quoteTablePart := wrapTablePart '\x60'
  quoteColumnPart := wrapColumnPart '\x60'
  physicalType := mysqlType
  placeholderStyle := .question
  renameColumn table old new type :=
    "ALTER TABLE " ++ table ++ " CHANGE " ++ old ++ " " ++ new ++ " " ++ type
  createIndex name table columns unique :=
    "ALTER TABLE " ++ table ++ (if unique then " ADD UNIQUE INDEX " else " ADD INDEX ") ++
      name ++ " (" ++ columns ++ ")"
  resetSequence := some fun table value =>
    "ALTER TABLE " ++ table ++ " AUTO_INCREMENT=" ++ toString (value.getD 1)
  integrityCheck := .session fun check =>
    "SET FOREIGN_KEY_CHECKS = " ++ if check then "1" else "0"

end SqlCompose.Dialect

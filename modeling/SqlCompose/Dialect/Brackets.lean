import SqlCompose.Dialect.Basic
/-!
# A dialect with brackets

Every part of a name stands between square brackets, whatever it is, parameters are
question marks, the physical types are the tokens themselves, and every statement has
its portable form.
-/

namespace SqlCompose.Dialect

/-- A part of a name between square brackets. -/
def bracketed (part : String) : String := "[" ++ part ++ "]"

/-- The dialect with brackets. -/
def brackets : Dialect where
  name := "Brackets"
  quoteTablePart := bracketed
  quoteColumnPart := bracketed
  physicalType := ColumnType.token
  placeholderStyle := .question

end SqlCompose.Dialect

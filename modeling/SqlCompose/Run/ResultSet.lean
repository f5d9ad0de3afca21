import SqlCompose.Value.Basic
/-!
# Results of statements

A `ResultSet` has rows of named values and the names and backend types of the columns.
A row may have several columns of one name; the first of them answers to it.
-/

namespace SqlCompose

/-- A column of a result. -/
structure Field where
  name : String
  /-- The backend's name of the type of the column. -/
  typeName : String
deriving DecidableEq

/-- A row of a result, from the first column to the last. -/
structure Row where
  entries : List (String × Value) := []

/-- What a backend answers to a statement. -/
structure ResultSet where
  rows : List Row := []
  fields : List Field := []

namespace Row

/-- The value of the first column with a name. -/
def get? (r : Row) (name : String) : Option Value :=
  (r.entries.find? fun e => e.1 == name).map (·.2)

/-- The names of the columns. -/
def columns (r : Row) : List String := r.entries.map (·.1)

/-- The values of the columns. -/
def values (r : Row) : List Value := r.entries.map (·.2)

/-- The value of the first column. -/
def first? (r : Row) : Option Value := r.values.head?

/-- The number of columns. -/
def size (r : Row) : Nat := r.entries.length

/-- Whether there are no columns. -/
def isEmpty (r : Row) : Bool := r.entries.isEmpty

end Row

namespace ResultSet

/-- The number of rows. -/
def size (s : ResultSet) : Nat := s.rows.length

/-- Whether there are no rows. -/
def isEmpty (s : ResultSet) : Bool := s.rows.isEmpty

/-- The first row. -/
def firstRow? (s : ResultSet) : Option Row := s.rows.head?

/-- The first value of every row that has one. -/
def firstColumn (s : ResultSet) : List Value := s.rows.filterMap Row.first?

/-- The first value of the first row. -/
def firstValue? (s : ResultSet) : Option Value := s.firstRow?.bind Row.first?

end ResultSet

end SqlCompose

import SqlCompose.Query.Node
import SqlCompose.Text.Basic
import SqlCompose.Text.Blank
/-!
# Orderings

Texts such as `name asc, age desc` list columns with their directions. The words for
the directions may have any letter case and need a column and a blank in front of
them; without such a word a column is ascending.

An ordering has every column once. A column that is mentioned again keeps its place
and takes the new direction (`merge`).
-/

namespace SqlCompose.Ordering

/-- The words for directions, the first that fits being taken. -/
def words : List (List Char × SortOrder) :=
  [("asc".toList, .asc), ("desc".toList, .desc)]

/-- What stands in front of a word at the end of a text, in any letter case. -/
def beforeWord? (word cs : List Char) : Option (List Char) :=
  let head := cs.take (cs.length - word.length)
  if word.length ≤ cs.length ∧ (cs.drop (cs.length - word.length)).map Char.toLower = word then
    some head
  else none

/-- The column in front of a word for a direction, if there is one and a blank behind
it. -/
def columnBefore? (word cs : List Char) : Option (List Char) :=
  match beforeWord? word cs with
  | some head =>
    let column := Text.trimEndChars head
    if column.length < head.length ∧ !column.isEmpty then some column else none
  | none => none

/-- A trimmed entry with its direction. -/
def entry (cs : List Char) : String × SortOrder :=
  match words.findSome? fun w => (columnBefore? w.1 cs).map fun column => (column, w.2) with
  | some (column, order) => (String.ofList column, order)
  | none => (String.ofList cs, .asc)

/-- The ordering that a text lists, with repetitions. -/
def parse (text : String) : List (String × SortOrder) :=
  (((Text.splitChars ',' text.toList).map Text.trimChars).filter (!·.isEmpty)).map entry

/-- An ordering in which a column has a direction: in its place, or at the end. -/
def set (column : String) (order : SortOrder) :
    List (String × SortOrder) → List (String × SortOrder)
  | [] => [(column, order)]
  | e :: rest => if e.1 = column then (e.1, order) :: rest else e :: set column order rest

/-- An ordering with further columns; a column that it has already keeps its place and
takes the new direction. -/
def merge (ordering more : List (String × SortOrder)) : List (String × SortOrder) :=
  more.foldl (fun os e => set e.1 e.2 os) ordering

end SqlCompose.Ordering

import SqlCompose.Error
import SqlCompose.Text.Basic
import SqlCompose.Text.Upper
/-!
# Operators

The operators of conditions and the texts that name them. Operator text is read in any
letter case; text that names no operator stands for a comparison with that operator,
so every text has a meaning. `LikeOp` is the family of pattern operators,
`[AND |OR ][NOT ][I]LIKE`.
-/

namespace SqlCompose

/-- How the patterns of one condition are joined. -/
inductive Joiner
  | and
  | or
deriving DecidableEq

/-- The word of a joiner. -/
def Joiner.text : Joiner → String
  | and => "AND"
  | or => "OR"

/-- A pattern operator. -/
structure LikeOp where
  /-- How several patterns are joined. -/
  joiner : Joiner := .and
  negated : Bool := false
  caseInsensitive : Bool := false
deriving DecidableEq

namespace LikeOp

/-- The keyword between column and pattern. -/
def keyword (op : LikeOp) : String :=
  match op.negated, op.caseInsensitive with
  | false, false => "LIKE"
  | true, false => "NOT LIKE"
  | false, true => "ILIKE"
  | true, true => "NOT ILIKE"

/-- The joiner in front of a text, `AND` if there is none, and the rest. -/
def takeJoiner (cs : List Char) : Joiner × List Char :=
  match Text.dropLead? "AND ".toList cs with
  | some rest => (.and, rest)
  | none =>
    match Text.dropLead? "OR ".toList cs with
    | some rest => (.or, rest)
    | none => (.and, cs)

/-- Whether a text starts with `NOT`, and the rest. -/
def takeNegation (cs : List Char) : Bool × List Char :=
  match Text.dropLead? "NOT ".toList cs with
  | some rest => (true, rest)
  | none => (false, cs)

/-- The pattern operator of an upper-case text. -/
def ofUpper? (upper : String) : Option LikeOp :=
  let (joiner, rest) := takeJoiner upper.toList
  let (negated, rest) := takeNegation rest
  if rest = "LIKE".toList then some ⟨joiner, negated, false⟩
  else if rest = "ILIKE".toList then some ⟨joiner, negated, true⟩
  else none

/-- The pattern operator that a text names. -/
def parse (text : String) : Except Error LikeOp :=
  match ofUpper? (Text.upper text) with
  | some op => .ok op
  | none => .error (.invalidOperator text)

end LikeOp

/-- The operator of a condition. -/
inductive Operator
  | and
  | or
  | not
  | between
  | notBetween
  | isIn
  | notIn
  | like (op : LikeOp)
  /-- Whether a subquery has a row. -/
  | hasRow
  | hasNoRow
  /-- A comparison by any other operator. -/
  | compare (text : String)
deriving DecidableEq

namespace Operator

/-- The texts of pattern operators that name an operator of a condition. -/
def likeTexts : List String :=
  ["LIKE", "NOT LIKE", "OR LIKE", "OR NOT LIKE", "ILIKE", "NOT ILIKE", "OR ILIKE",
   "OR NOT ILIKE"]

/-- The operator of an upper-case text. -/
def ofUpper (upper : String) : Operator :=
  if upper = "AND" then .and
  else if upper = "OR" then .or
  else if upper = "NOT" then .not
  else if upper = "BETWEEN" then .between
  else if upper = "NOT BETWEEN" then .notBetween
  else if upper = "IN" then .isIn
  else if upper = "NOT IN" then .notIn
  else if upper = "EXISTS" then .hasRow
  else if upper = "NOT EXISTS" then .hasNoRow
  else if likeTexts.contains upper then
    match LikeOp.ofUpper? upper with
    | some op => .like op
    | none => .compare upper
  else .compare upper

/-- The operator that a text names. -/
def parse (text : String) : Operator :=
  ofUpper (Text.upper text)

/-- The text of an operator in a statement. -/
def text : Operator → String
  | and => "AND"
  | or => "OR"
  | not => "NOT"
  | between => "BETWEEN"
  | notBetween => "NOT BETWEEN"
  | isIn => "IN"
  | notIn => "NOT IN"
  | like op => op.keyword
  | hasRow => "EXISTS"
  | hasNoRow => "NOT EXISTS"
  | compare t => t

end Operator

end SqlCompose

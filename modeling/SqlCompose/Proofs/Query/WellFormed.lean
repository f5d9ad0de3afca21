import SqlCompose.Query.Basic
import SqlCompose.Query.Operand
import SqlCompose.Text.Blank
/-!
# Well-formed queries

Which number and which shapes of operands an operator takes, what a join must have, and which
of the conditions and queries inside must be well-formed themselves. This is said of one layer
in which everything inside has been replaced by whether it is well-formed;
`Query.wellFormed` and `Condition.wellFormed` are folds over these layers.
-/

namespace SqlCompose

variable {κ θ κ' θ' : Type}

/-! ### Operands -/

namespace Operand

/-- A column: text, or the only name of a list. -/
def isColumn : Operand κ θ → Bool
  | expr _ | columns [_] => true
  | _ => false

/-- A scalar: a value, or text. -/
def isScalar : Operand κ θ → Bool
  | value _ | expr _ => true
  | _ => false

/-- One pattern or several. -/
def isPatterns : Operand κ θ → Bool
  | values _ | value _ | expr _ => true
  | _ => false

/-- How many columns are looked for in a membership, if the operand names columns. -/
def columnCount? : Operand κ θ → Option Nat
  | expr _ => some 1
  | columns names => some names.length
  | _ => none

/-- A restriction: text, or a well-formed condition. -/
def isRestriction : Operand Bool Bool → Bool
  | expr _ => true
  | condition ok => ok
  | _ => false

/-- A well-formed query. -/
def isSubquery : Operand Bool Bool → Bool
  | query ok => ok
  | _ => false

/-- Where `n` columns can be looked for. Without columns, or in a list of nothing, nothing else
matters; one column is looked for in all that has values, several only in rows. -/
def holdsMembers (n : Nat) (o : Operand Bool Bool) : Bool :=
  n == 0 || o.listsNothing ||
    match o with
    | query ok => ok
    | rows _ => true
    | values _ | value _ | expr _ => n == 1
    | _ => false

/-! ### Operands in a row -/

/-- What can be negated: one restriction. -/
def isNegatable : List (Operand Bool Bool) → Bool
  | [o] => o.isRestriction
  | _ => false

/-- A column and two bounds. -/
def isRange : List (Operand κ θ) → Bool
  | [column, low, high] => column.isColumn && (low.isScalar && high.isScalar)
  | _ => false

/-- Columns, and where they can be looked for. -/
def isMembership : List (Operand Bool Bool) → Bool
  | [left, right] =>
    match left.columnCount? with
    | some n => right.holdsMembers n
    | none => false
  | _ => false

/-- A column and patterns, perhaps with an escaping. -/
def isMatching : List (Operand κ θ) → Bool
  | [column, right] | [column, right, .escape _] => column.isColumn && right.isPatterns
  | _ => false

/-- One well-formed query. -/
def isSource : List (Operand Bool Bool) → Bool
  | [o] => o.isSubquery
  | _ => false

/-- A column, and what it is compared with. -/
def isComparison : List (Operand Bool Bool) → Bool
  | [column, right] => column.isColumn && (right.isSubquery || right.isScalar)
  | _ => false

end Operand

/-! ### Layers -/

/-- The operands that an operator takes. -/
def Operator.takes (op : Operator) (os : List (Operand Bool Bool)) : Bool :=
  match op with
  | .and | .or => os.all Operand.isRestriction
  | .not => Operand.isNegatable os
  | .between | .notBetween => Operand.isRange os
  | .isIn | .notIn => Operand.isMembership os
  | .like _ => Operand.isMatching os
  | .hasRow | .hasNoRow => Operand.isSource os
  | .compare _ => Operand.isComparison os

/-- What a part without conditions and queries inside is like. -/
def intact (inside : Option Bool) : Bool := inside.getD true

/-- A layer of a condition. -/
def ConditionNode.wellFormed : ConditionNode Bool Bool → Bool
  | raw _ => true
  | hash pairs => pairs.all fun p => intact p.2.query?
  | operator op operands => op.takes operands

/-- A join has a table, and a type that is not blank. -/
def Join.wellFormed (j : Join Bool Bool) : Bool :=
  match j.table with
  | none => false
  | some table => !(Text.trim j.joinType).isEmpty && (intact table.query? && intact j.on)

/-- A layer of a query. -/
def QueryNode.wellFormed (n : QueryNode Bool Bool) : Bool :=
  (n.select.all fun c => intact c.query?) && (n.tables.all fun s => intact s.query?) &&
    n.joins.all Join.wellFormed && intact n.filter && intact n.having &&
    n.unions.all fun u => intact u.query?

/-! ### Trees -/

/-- **Well-formed conditions.** -/
def Condition.wellFormed (c : Condition) : Bool :=
  Condition.fold ConditionNode.wellFormed QueryNode.wellFormed c

/-- **Well-formed queries.** -/
def Query.wellFormed (q : Query) : Bool :=
  Query.fold ConditionNode.wellFormed QueryNode.wellFormed q

/-- Where no columns are looked for, a malformed query does no harm. -/
example : (Condition.operator .isIn [.columns [], .query ⟨{ joins := [⟨"", none, none⟩] }⟩]).wellFormed
    = true := by
  rfl

/-! ### Shapes of operands do not depend on what stands inside -/

namespace Operand

variable (f : κ → κ') (g : θ → θ')

@[simp] theorem isColumn_map (o : Operand κ θ) : (o.map f g).isColumn = o.isColumn := by
  cases o with
  | columns names => rcases names with _ | ⟨name, _ | ⟨name', rest⟩⟩ <;> rfl
  | _ => rfl

@[simp] theorem isScalar_map (o : Operand κ θ) : (o.map f g).isScalar = o.isScalar := by
  cases o <;> rfl

@[simp] theorem isPatterns_map (o : Operand κ θ) : (o.map f g).isPatterns = o.isPatterns := by
  cases o <;> rfl

end Operand

end SqlCompose

import SqlCompose.Proofs.Query.Inside
import SqlCompose.Query.Operand
/-!
# The texts of a query

`Query.texts` lists what a caller has written into a query as text: names, aliases, raw
SQL, the types of joins, options and operators, at any depth. Values do not belong to
it, nor does a text that stands where an operator expects a value, since both are bound.
-/

namespace SqlCompose

variable {κ θ : Type}

/-! ### The texts of one layer -/

/-- The texts of an entry of a select list. -/
def ColumnSpec.texts : ColumnSpec θ → List String
  | bare text => [text]
  | aliased name expr => [name, expr]
  | subquery name _ => [name]

/-- The texts of an entry of a list of tables. -/
def TableSpec.texts : TableSpec θ → List String
  | bare text => [text]
  | aliased name table => [name, table]
  | subquery name _ => [name]

/-- The texts of a join: its type, and those of its table. -/
def Join.texts (j : Join κ θ) : List String :=
  j.joinType :: (j.table.map TableSpec.texts).getD []

/-- The text of a member of a union. -/
def UnionMember.texts (u : UnionMember θ) : List String :=
  match u.source with
  | .query _ => []
  | .raw sql => [sql]

/-- The texts of an operand that does not stand for a value. -/
def Operand.texts : Operand κ θ → List String
  | expr text => [text]
  | columns names => names
  | _ => []

/-- The operands of an operator that do not stand for values: all those of a junction or a
negation, and the first of every other operator. -/
def Operator.textual {α : Type} (op : Operator) (operands : List α) : List α :=
  match op with
  | .and | .or | .not => operands
  | _ => operands.take 1

/-- The texts of one layer of a condition. -/
def ConditionNode.ownTexts : ConditionNode κ θ → List String
  | raw sql => [sql]
  | hash pairs => pairs.map (·.1)
  | operator op operands => op.text :: (op.textual operands).flatMap Operand.texts

/-- The texts of one layer of a query. -/
def QueryNode.ownTexts (n : QueryNode κ θ) : List String :=
  n.select.flatMap ColumnSpec.texts ++ n.selectOption.toList ++
    n.tables.flatMap TableSpec.texts ++ n.joins.flatMap Join.texts ++ n.groupBy ++
    n.orderBy.map (·.1) ++ n.unions.flatMap UnionMember.texts

/-! ### What is read from operands -/

namespace Operand

variable {op : Operator} {o : Operand κ θ}

theorem mem_texts_of_asColumn {name : String} (h : o.asColumn op = .ok name) :
    name ∈ o.texts := by
  unfold asColumn at h
  split at h
  · cases h
    exact List.mem_singleton_self _
  · cases h
    exact List.mem_singleton_self _
  · cases h

theorem mem_texts_of_memberColumns {names : List String} (h : o.memberColumns op = .ok names) :
    names ⊆ o.texts := by
  unfold memberColumns at h
  split at h
  · cases h
    exact List.Subset.refl _
  · cases h
    exact List.Subset.refl _
  · cases h

/-- The column of a pattern operator is a text of its first operand. -/
theorem column_of_matching {os : List (Operand κ θ)} {m : Matching}
    (h : matching op os = .ok m) : ∃ o rest, os = o :: rest ∧ m.column ∈ o.texts := by
  -- with or without an escape, the first operand is read as the column
  have hwith : ∀ (column right : Operand κ θ) (escape : LikeEscape),
      matchingWith op column right escape = .ok m → m.column ∈ column.texts := by
    intro column right escape hm
    unfold matchingWith at hm
    cases hcolumn : column.asColumn op with
    | error e =>
      rw [hcolumn] at hm
      cases hm
    | ok name =>
      cases hpatterns : right.patterns op with
      | error e =>
        rw [hcolumn, hpatterns] at hm
        cases hm
      | ok vs =>
        rw [hcolumn, hpatterns] at hm
        cases hm
        exact mem_texts_of_asColumn hcolumn
  unfold matching at h
  split at h
  · exact ⟨_, _, rfl, hwith _ _ _ h⟩
  · exact ⟨_, _, rfl, hwith _ _ _ h⟩
  · cases h
  · cases h

end Operand

/-! ### The texts of a tree -/

/-- The texts of a condition and of what stands inside it. -/
def Condition.texts (c : Condition) : List String :=
  Condition.fold (fun n => n.ownTexts ++ n.gather) (fun n => n.ownTexts ++ n.gather) c

/-- The texts of a query and of what stands inside it. -/
def Query.texts (q : Query) : List String :=
  Query.fold (fun n => n.ownTexts ++ n.gather) (fun n => n.ownTexts ++ n.gather) q

/-- The texts of a layer do not depend on what stands inside. -/
theorem ConditionNode.ownTexts_map {κ' θ' : Type} (f : κ → κ') (g : θ → θ')
    (n : ConditionNode κ θ) : (n.map f g).ownTexts = n.ownTexts := by
  have hoperand : ∀ o : Operand κ θ, (o.map f g).texts = o.texts := by
    intro o; cases o <;> rfl
  cases n with
  | raw => rfl
  | hash pairs =>
    simp only [ConditionNode.map, ownTexts, List.map_map]
    rfl
  | operator op operands =>
    have htextual : op.textual (operands.map (·.map f g)) =
        (op.textual operands).map (·.map f g) := by
      cases op <;> first | rfl | exact List.map_take.symm
    simp only [ConditionNode.map, ownTexts, htextual, List.flatMap_map, hoperand]

theorem QueryNode.ownTexts_map {κ' θ' : Type} (f : κ → κ') (g : θ → θ') (n : QueryNode κ θ) :
    (n.map f g).ownTexts = n.ownTexts := by
  have hcolumn : ∀ c : ColumnSpec θ, (c.map g).texts = c.texts := by
    intro c; cases c <;> rfl
  have htable : ∀ s : TableSpec θ, (s.map g).texts = s.texts := by
    intro s; cases s <;> rfl
  have hjoin : ∀ j : Join κ θ, (j.map f g).texts = j.texts := by
    rintro ⟨joinType, table, on⟩
    simp only [Join.texts, Join.map, Option.map_map]
    cases table with
    | none => rfl
    | some s => exact congrArg (joinType :: ·) (htable s)
  have hunion : ∀ u : UnionMember θ, (u.map g).texts = u.texts := by
    rintro ⟨source, all⟩; cases source <;> rfl
  simp only [QueryNode.map, ownTexts, List.flatMap_map, hcolumn, htable, hjoin, hunion]

/-- The texts of a condition are those of its layer and those of what it contains. -/
theorem Condition.mem_texts_mk {n : ConditionNode Condition Query} {s : String} :
    s ∈ Condition.texts ⟨n⟩ ↔
      s ∈ n.ownTexts ∨ ∃ y, Contains (.inl ⟨n⟩) y ∧ s ∈ Sum.elim Condition.texts Query.texts y := by
  rw [Condition.texts, Condition.fold_mk, List.mem_append, ConditionNode.ownTexts_map]
  exact or_congr_right ConditionNode.mem_gather_map

/-- The texts of a query are those of its layer and those of what it contains. -/
theorem Query.mem_texts_mk {n : QueryNode Condition Query} {s : String} :
    s ∈ Query.texts ⟨n⟩ ↔
      s ∈ n.ownTexts ∨ ∃ y, Contains (.inr ⟨n⟩) y ∧ s ∈ Sum.elim Condition.texts Query.texts y := by
  rw [Query.texts, Query.fold_mk, List.mem_append, QueryNode.ownTexts_map]
  exact or_congr_right QueryNode.mem_gather_map

end SqlCompose

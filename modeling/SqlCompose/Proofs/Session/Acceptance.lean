import SqlCompose.Proofs.Query.Nesting
import SqlCompose.Proofs.Query.WellFormed
import SqlCompose.Proofs.Session.Agreement
/-!
# Exactly the well-formed queries are accepted

A statement is built from a query if the query is well-formed, and refused with an error of
compilation otherwise (`Target.build_wellFormed`).

`Compiled.Decides` says this of one part and a verdict on it. `Judged` is a part together with
a verdict that is right: each rule of the compiler has a lemma which says that over judged
contents the verdict of the corresponding clause of well-formedness is right, so a tree can be
judged layer by layer in one fold (`Target.judgeCondition`, `Target.judgeQuery`). What it
compiles and what it says are the two folds that were to be compared.
-/

namespace SqlCompose

namespace Compiled

variable {α β : Type}

/-- **A right verdict.** The part was compiled if the verdict is `true`, and refused with an
error of compilation if it is `false`. -/
def Decides : Except Rejection α → Bool → Prop
  | .ok _, ok => ok = true
  | .error r, ok => ok = false ∧ r.error.isCompileError = true

theorem decides_ok (x : α) : Decides (.ok x) true := rfl

theorem decides_invalid (op : Operator) (message : String) :
    Decides (lift (Operand.invalid op message) : Except Rejection α) false := ⟨rfl, rfl⟩

theorem decides_wrongCount (op : Operator) (expected : String) :
    Decides (lift (Operand.wrongCount op expected) : Except Rejection α) false := ⟨rfl, rfl⟩

theorem Decides.map {x : Except Rejection α} {ok : Bool} (h : Decides x ok) (F : α → β) :
    Decides (x.map F) ok := by
  cases x with
  | ok x => exact h
  | error r => exact h

/-- One part behind another that has been read. -/
theorem Decides.bind {x : Except Rejection α} {k : α → Except Rejection β} {ok ok' : Bool}
    (h : Decides x ok) (hk : ∀ y, Decides (k y) ok') : Decides (x >>= k) (ok && ok') := by
  cases x with
  | ok x =>
    have hok : ok = true := h
    rw [hok, Bool.true_and]
    exact hk x
  | error r =>
    have hok : ok = false := h.1
    rw [hok, Bool.false_and]
    exact ⟨rfl, h.2⟩

/-- Something made of a part that has been read. -/
theorem Decides.bind_ok {x : Except Rejection α} {ok : Bool} (h : Decides x ok) (F : α → β) :
    Decides (x >>= fun y => .ok (F y)) ok := by
  cases x with
  | ok x => exact h
  | error r => exact h

theorem decides_sequence_nil : Decides (sequence []) true := rfl

/-- Parts in a row are accepted if each of them is. -/
theorem Decides.sequence_cons {c : Compiled} {cs : List Compiled} {ok ok' : Bool}
    (h : Decides c ok) (hcs : Decides (sequence cs) ok') :
    Decides (sequence (c :: cs)) (ok && ok') := by
  cases c with
  | ok f =>
    have hok : ok = true := h
    rw [hok, Bool.true_and, sequence]
    cases hrest : sequence cs with
    | ok fs => rwa [hrest] at hcs
    | error r => rwa [hrest] at hcs
  | error r =>
    have hok : ok = false := h.1
    rw [hok, Bool.false_and]
    exact ⟨rfl, h.2⟩

/-- Parts that are each made from one item are accepted if all items are. -/
theorem decides_sequence_map {γ δ : Type} {F : β → Compiled} {p : γ → Bool} {m : δ → β}
    {m' : δ → γ} (h : ∀ x, Decides (F (m x)) (p (m' x))) (xs : List δ) :
    Decides (sequence ((xs.map m).map F)) ((xs.map m').all p) := by
  induction xs with
  | nil => exact decides_sequence_nil
  | cons x xs ih => exact (h x).sequence_cons ih

end Compiled

/-- **A judged part**: what it compiled to, and the right verdict on it. -/
structure Judged where
  compiled : Compiled
  verdict : Bool
  decides : Compiled.Decides compiled verdict

open Compiled

/-! ### Operands -/

namespace Operand

variable {κ θ : Type} (op : Operator)

theorem decides_asColumn (o : Operand κ θ) : Decides (lift (o.asColumn op)) o.isColumn := by
  cases o with
  | expr => exact decides_ok _
  | columns names =>
    rcases names with _ | ⟨name, _ | ⟨name', rest⟩⟩
    · exact decides_invalid _ _
    · exact decides_ok _
    · exact decides_invalid _ _
  | _ => exact decides_invalid _ _

theorem decides_asValue (o : Operand κ θ) : Decides (lift (o.asValue op)) o.isScalar := by
  cases o with
  | value | expr => exact decides_ok _
  | _ => exact decides_invalid _ _

theorem decides_patterns (o : Operand κ θ) : Decides (lift (o.patterns op)) o.isPatterns := by
  cases o with
  | values | value | expr => exact decides_ok _
  | _ => exact decides_invalid _ _

theorem decides_matchingWith (column right : Operand κ θ) (escape : LikeEscape) :
    Decides (lift (matchingWith op column right escape)) (column.isColumn && right.isPatterns) := by
  have hlift : lift (matchingWith op column right escape) =
      lift (column.asColumn op) >>= fun name => lift (right.patterns op) >>= fun vs =>
        .ok ⟨name, vs, escape⟩ := by
    unfold matchingWith
    cases column.asColumn op with
    | error e => rfl
    | ok name => cases right.patterns op <;> rfl
  rw [hlift]
  refine (decides_asColumn op column).bind fun name => ?_
  exact (decides_patterns op right).map _

end Operand

/-- Operands over judged contents, as they are compiled. -/
abbrev Operand.parts (os : List (Operand Judged Judged)) : List Part :=
  os.map (·.map Judged.compiled Judged.compiled)

/-- Operands over judged contents, with the verdicts on them. -/
abbrev Operand.verdicts (os : List (Operand Judged Judged)) : List (Operand Bool Bool) :=
  os.map (·.map Judged.verdict Judged.verdict)

/-! ### Conditions -/

section Conditions

variable (d : Dialect) (op : Operator) (os : List (Operand Judged Judged))

theorem Part.decides_asCondition (message : String) (o : Operand Judged Judged) :
    Decides (Part.asCondition op message (o.map Judged.compiled Judged.compiled))
      (o.map Judged.verdict Judged.verdict).isRestriction := by
  cases o with
  | condition j => exact j.decides
  | expr => exact decides_ok _
  | _ => exact decides_invalid _ _

namespace Dialect

theorem decides_junction :
    Decides (junction op (Operand.parts os)) ((Operand.verdicts os).all Operand.isRestriction) :=
  (decides_sequence_map (Part.decides_asCondition op _) os).map _

theorem decides_negation :
    Decides (negation op (Operand.parts os)) (Operand.isNegatable (Operand.verdicts os)) := by
  rcases os with _ | ⟨o, _ | ⟨o', rest⟩⟩
  · exact decides_wrongCount _ _
  · exact (Part.decides_asCondition op _ o).map _
  · exact decides_wrongCount _ _

theorem decides_range :
    Decides (d.range op (Operand.parts os)) (Operand.isRange (Operand.verdicts os)) := by
  rcases os with _ | ⟨o, _ | ⟨o', _ | ⟨o₃, _ | ⟨o₄, rest⟩⟩⟩⟩
  · exact decides_wrongCount _ _
  · exact decides_wrongCount _ _
  · exact decides_wrongCount _ _
  · simp only [Operand.parts, Operand.verdicts, List.map_cons, List.map_nil, range, Operand.isRange,
      Operand.asColumn_map, Operand.asValue_map, Operand.isColumn_map, Operand.isScalar_map]
    -- the column is read first, and then one bound behind the other
    refine (Operand.decides_asColumn op o).bind fun name => ?_
    refine (Operand.decides_asValue op o').bind fun low => ?_
    exact (Operand.decides_asValue op o₃).bind_ok _
  · exact decides_wrongCount _ _

/-- Columns in what is on the right-hand side of a membership. -/
theorem decides_memberOf (names : List String) (o : Operand Judged Judged) :
    Decides (d.memberOf op names (o.map Judged.compiled Judged.compiled))
      ((o.map Judged.verdict Judged.verdict).holdsMembers names.length) := by
  unfold memberOf Operand.holdsMembers
  rw [Operand.listsNothing_map, Operand.listsNothing_map]
  cases hempty : names.isEmpty || o.listsNothing with
  | true =>
    -- nothing is looked for, or in nothing: the right-hand side does not matter
    have hzero : (names.length == 0 || o.listsNothing) = true := by
      rw [← hempty]
      cases names <;> rfl
    rw [hzero]
    exact decides_ok _
  | false =>
    rw [Bool.or_eq_false_iff] at hempty
    rw [hempty.2, Bool.or_false]
    rcases names with _ | ⟨name, _ | ⟨name', rest⟩⟩
    · exact absurd hempty.1 (by decide)
    · cases o with
      | query j => exact j.decides.map _
      | values | value | expr | rows => exact decides_ok _
      | condition | columns | escape => exact decides_invalid _ _
    · cases o with
      | query j => exact j.decides.map _
      | rows => exact decides_ok _
      | _ => exact decides_invalid _ _

theorem decides_membership :
    Decides (d.membership op (Operand.parts os)) (Operand.isMembership (Operand.verdicts os)) := by
  rcases os with _ | ⟨o, _ | ⟨o', _ | ⟨o'', rest⟩⟩⟩
  · exact decides_wrongCount _ _
  · exact decides_wrongCount _ _
  · cases o with
    | expr name => exact d.decides_memberOf op [name] o'
    | columns names => exact d.decides_memberOf op names o'
    | _ => exact decides_invalid _ _
  · exact decides_wrongCount _ _

theorem decides_like (likeOp : LikeOp) :
    Decides (d.like op likeOp (Operand.parts os))
      (Operand.isMatching (Operand.verdicts os)) := by
  have hmatching : ∀ (o o' : Operand Judged Judged) (e : LikeEscape),
      Decides (lift (Operand.matchingWith op o o' e))
        ((o.map Judged.verdict Judged.verdict).isColumn &&
          (o'.map Judged.verdict Judged.verdict).isPatterns) := by
    intro o o' e
    rw [Operand.isColumn_map, Operand.isPatterns_map]
    exact Operand.decides_matchingWith op o o' e
  refine Decides.map ?_ _
  rw [Operand.matching_map]
  -- two operands, or three of which the last is an escape, and no other number
  rcases os with _ | ⟨o, _ | ⟨o', _ | ⟨o₃, _ | ⟨o₄, rest⟩⟩⟩⟩
  · exact decides_wrongCount _ _
  · exact decides_wrongCount _ _
  · exact hmatching o o' .standard
  · cases o₃ with
    | escape e => exact hmatching o o' e
    | _ => exact decides_invalid _ _
  · cases o₃ <;> exact decides_wrongCount _ _

theorem decides_existence :
    Decides (existence op (Operand.parts os)) (Operand.isSource (Operand.verdicts os)) := by
  rcases os with _ | ⟨o, _ | ⟨o', rest⟩⟩
  · exact decides_wrongCount _ _
  · cases o with
    | query j => exact j.decides.map _
    | _ => exact decides_invalid _ _
  · cases o <;> exact decides_wrongCount _ _

theorem decides_comparison :
    Decides (d.comparison op (Operand.parts os))
      (Operand.isComparison (Operand.verdicts os)) := by
  rcases os with _ | ⟨o, _ | ⟨o', _ | ⟨o'', rest⟩⟩⟩
  · exact decides_wrongCount _ _
  · exact decides_wrongCount _ _
  · simp only [Operand.parts, Operand.verdicts, List.map_cons, List.map_nil, comparison,
      Operand.isComparison, Operand.asColumn_map, Operand.isColumn_map]
    refine (Operand.decides_asColumn op o).bind fun name => ?_
    cases o' with
    | query j =>
      -- a query is no scalar, so the verdict is the one on the query
      have hverdict : (j.verdict || false) = j.verdict := Bool.or_false _
      exact hverdict ▸ j.decides.map _
    | value v => cases v <;> exact decides_ok _
    | expr => exact decides_ok _
    | _ => exact decides_invalid _ _
  · exact decides_wrongCount _ _

theorem decides_operator :
    Decides (d.operator op (Operand.parts os)) (op.takes (Operand.verdicts os)) := by
  cases op with
  | and | or => exact decides_junction _ os
  | not => exact decides_negation _ os
  | between | notBetween => exact d.decides_range _ os
  | isIn | notIn => exact d.decides_membership _ os
  | like likeOp => exact d.decides_like _ os likeOp
  | hasRow | hasNoRow => exact decides_existence _ os
  | compare text => exact d.decides_comparison _ os

theorem decides_pair (column : String) (v : HashValue Judged) :
    Decides (d.pair column (v.map Judged.compiled)) (intact (v.map Judged.verdict).query?) := by
  cases v with
  | list => exact decides_ok _
  | query j => exact j.decides.map _
  | value v => cases v <;> exact decides_ok _

/-- **A layer of a condition** over judged contents is accepted if it is well-formed. -/
theorem decides_conditionNode (n : ConditionNode Judged Judged) :
    Decides (d.conditionNode (n.map Judged.compiled Judged.compiled))
      (n.map Judged.verdict Judged.verdict).wellFormed := by
  cases n with
  | raw => exact decides_ok _
  | hash pairs =>
    refine Decides.map ?_ _
    exact decides_sequence_map (p := fun p : String × HashValue Bool => intact p.2.query?)
      (fun p => d.decides_pair p.1 p.2) pairs
  | operator op os => exact d.decides_operator op os

end Dialect

end Conditions

/-! ### Clauses -/

section Clauses

namespace Dialect

variable (d : Dialect)

theorem decides_selectEntry (c : ColumnSpec Judged) :
    Decides (d.selectEntry (c.map Judged.compiled)) (intact (c.map Judged.verdict).query?) := by
  cases c with
  | subquery name j => exact j.decides.map _
  | _ => exact decides_ok _

theorem decides_selectClause (columns : List (ColumnSpec Judged)) (distinct : Bool)
    (option : Option String) :
    Decides (d.selectClause (columns.map (·.map Judged.compiled)) distinct option)
      ((columns.map (·.map Judged.verdict)).all fun c => intact c.query?) := by
  cases columns with
  | nil => exact decides_ok _
  | cons c rest =>
    exact (decides_sequence_map (p := fun c : ColumnSpec Bool => intact c.query?)
      d.decides_selectEntry (c :: rest)).map _

theorem decides_tableEntry (s : TableSpec Judged) :
    Decides (d.tableEntry (s.map Judged.compiled)) (intact (s.map Judged.verdict).query?) := by
  cases s with
  | subquery name j => exact j.decides.map _
  | _ => exact decides_ok _

theorem decides_fromClause (tables : List (TableSpec Judged)) :
    Decides (d.fromClause (tables.map (·.map Judged.compiled)))
      ((tables.map (·.map Judged.verdict)).all fun s => intact s.query?) := by
  cases tables with
  | nil => exact decides_ok _
  | cons s rest =>
    exact (decides_sequence_map (p := fun s : TableSpec Bool => intact s.query?)
      d.decides_tableEntry (s :: rest)).map _

theorem decides_keywordClause (keyword : String) (condition : Option Judged) :
    Decides (keywordClause keyword (condition.map Judged.compiled))
      (intact (condition.map Judged.verdict)) := by
  cases condition with
  | none => exact decides_ok _
  | some j => exact j.decides.map _

theorem decides_joinEntry (j : Join Judged Judged) :
    Decides (d.joinEntry (j.map Judged.compiled Judged.compiled))
      (j.map Judged.verdict Judged.verdict).wellFormed := by
  obtain ⟨joinType, table, on⟩ := j
  cases table with
  | none => exact ⟨rfl, rfl⟩
  | some s =>
    change Decides _ (!(Text.trim joinType).isEmpty &&
      (intact (s.map Judged.verdict).query? && intact (on.map Judged.verdict)))
    -- without words the table and the condition are not looked at
    cases hwords : (Text.trim joinType).isEmpty with
    | true =>
      rw [Join.map, Option.map_some, d.joinEntry_of_blank hwords]
      exact ⟨rfl, rfl⟩
    | false =>
      have hparts := (d.decides_tableEntry s).sequence_cons
        ((decides_keywordClause " ON " on).sequence_cons decides_sequence_nil)
      rw [Bool.and_true] at hparts
      rw [Join.map, Option.map_some, d.joinEntry_of_not_blank hwords]
      exact hparts.map _

theorem decides_unionEntry (u : UnionMember Judged) :
    Decides (unionEntry (u.map Judged.compiled)) (intact (u.map Judged.verdict).query?) := by
  obtain ⟨source, all⟩ := u
  cases source with
  | query j => exact j.decides.map _
  | raw => exact decides_ok _

theorem decides_unionClause (unions : List (UnionMember Judged)) :
    Decides (unionClause (unions.map (·.map Judged.compiled)))
      ((unions.map (·.map Judged.verdict)).all fun u => intact u.query?) :=
  (decides_sequence_map (p := fun u : UnionMember Bool => intact u.query?)
    decides_unionEntry unions).map _

end Dialect

namespace Target

variable (t : Target)

theorem decides_joinClause (joins : List (Join Judged Judged)) :
    Decides (t.joinClause (joins.map (·.map Judged.compiled Judged.compiled)))
      ((joins.map (·.map Judged.verdict Judged.verdict)).all Join.wellFormed) :=
  (decides_sequence_map t.dialect.decides_joinEntry joins).map _

/-- **A layer of a query** over judged contents is accepted if it is well-formed. -/
theorem decides_queryNode (n : QueryNode Judged Judged) :
    Decides (t.queryNode (n.map Judged.compiled Judged.compiled))
      (n.map Judged.verdict Judged.verdict).wellFormed := by
  -- the grouping is the only clause with nothing inside
  have hclauses :=
    (t.dialect.decides_selectClause n.select n.distinct n.selectOption).sequence_cons <|
    (t.dialect.decides_fromClause n.tables).sequence_cons <|
    (t.decides_joinClause n.joins).sequence_cons <|
    (Dialect.decides_keywordClause "WHERE " n.filter).sequence_cons <|
    (decides_ok (Fragment.text (t.dialect.groupByClause n.groupBy))).sequence_cons <|
    (Dialect.decides_keywordClause "HAVING " n.having).sequence_cons <|
    (Dialect.decides_unionClause n.unions).sequence_cons decides_sequence_nil
  simp only [Bool.true_and, Bool.and_true, ← Bool.and_assoc] at hclauses
  exact hclauses.map _

/-! ### Trees -/

/-- A condition over judged contents, judged. -/
def judgeCondition (n : ConditionNode Judged Judged) : Judged :=
  ⟨_, _, t.dialect.decides_conditionNode n⟩

/-- A query over judged contents, judged. -/
def judgeQuery (n : QueryNode Judged Judged) : Judged := ⟨_, _, t.decides_queryNode n⟩

/-- **A tree compiles if it is well-formed**, and is refused otherwise. -/
theorem decides_wellFormed :
    (∀ c : Condition, Decides (t.condition c) c.wellFormed) ∧
      ∀ q : Query, Decides (t.query q) q.wellFormed := by
  -- a tree that is judged compiles to what it compiles to without that
  have hcompiled : (∀ c, (Condition.fold t.judgeCondition t.judgeQuery c).compiled = t.condition c) ∧
      ∀ q, (Query.fold t.judgeCondition t.judgeQuery q).compiled = t.query q :=
    fold_fusion (h := Judged.compiled) (k := Judged.compiled) (fun _ => rfl) fun _ => rfl
  -- and the verdict on it is well-formedness
  have hverdict : (∀ c, (Condition.fold t.judgeCondition t.judgeQuery c).verdict = c.wellFormed) ∧
      ∀ q, (Query.fold t.judgeCondition t.judgeQuery q).verdict = q.wellFormed :=
    fold_fusion (h := Judged.verdict) (k := Judged.verdict) (fun _ => rfl) fun _ => rfl
  constructor
  · intro c
    rw [← hcompiled.1 c, ← hverdict.1 c]
    exact (Condition.fold t.judgeCondition t.judgeQuery c).decides
  · intro q
    rw [← hcompiled.2 q, ← hverdict.2 q]
    exact (Query.fold t.judgeCondition t.judgeQuery q).decides

/-- **Exactly the well-formed queries are accepted**, whatever the parameters, the dialect and
the separator; the error for the others is one of compilation. -/
theorem build_wellFormed (q : Query) (seed : Params) :
    (q.wellFormed = true ∧ ∃ st, t.build q seed = .ok st) ∨
      (q.wellFormed = false ∧ ∃ e, t.build q seed = .error e ∧ e.isCompileError = true) := by
  rw [build_eq]
  have hdecides := t.decides_wellFormed.2 q
  cases hcompiled : t.query q with
  | ok f =>
    rw [hcompiled] at hdecides
    exact Or.inl ⟨hdecides, _, rfl⟩
  | error r =>
    rw [hcompiled] at hdecides
    exact Or.inr ⟨hdecides.1, r.error, rfl, hdecides.2⟩

end Target

end Clauses

end SqlCompose

import SqlCompose.Compile.Statement
import SqlCompose.Proofs.Query.Nesting
import SqlCompose.Proofs.Session.Filling
import SqlCompose.Session.Statement
/-!
# Writing is filling

A query can be written value by value with a running allocator (`Target.write`), or
compiled to a fragment that is filled afterwards (`Target.query`). Both are folds, and
`Target.write_eq_session` says that they agree from every allocator: in the text or the
error, and in what is bound.

The proof has one lemma for each rule of the compiler. It says that filling what the
rule compiles to is what the rule writes, given that this holds of the conditions and
queries inside.
-/

namespace SqlCompose

/-! ### Reading operands does not look inside -/

namespace Operand

variable {κ θ κ' θ' : Type} (f : κ → κ') (g : θ → θ') (op : Operator)

@[simp] theorem asColumn_map (o : Operand κ θ) : (o.map f g).asColumn op = o.asColumn op := by
  cases o with
  | columns names => rcases names with _ | ⟨name, _ | ⟨name', rest⟩⟩ <;> rfl
  | _ => rfl

@[simp] theorem asValue_map (o : Operand κ θ) : (o.map f g).asValue op = o.asValue op := by
  cases o <;> rfl

@[simp] theorem memberColumns_map (o : Operand κ θ) :
    (o.map f g).memberColumns op = o.memberColumns op := by
  cases o <;> rfl

@[simp] theorem listsNothing_map (o : Operand κ θ) :
    (o.map f g).listsNothing = o.listsNothing := by
  cases o <;> rfl

@[simp] theorem memberValues_map (column : String) (o : Operand κ θ) :
    (o.map f g).memberValues op column = o.memberValues op column := by
  cases o <;> rfl

@[simp] theorem patterns_map (o : Operand κ θ) : (o.map f g).patterns op = o.patterns op := by
  cases o <;> rfl

@[simp] theorem matchingWith_map (column right : Operand κ θ) (escape : LikeEscape) :
    matchingWith op (column.map f g) (right.map f g) escape =
      matchingWith op column right escape := by
  simp [matchingWith]

@[simp] theorem matching_map (os : List (Operand κ θ)) :
    matching op (os.map (·.map f g)) = matching op os := by
  rcases os with _ | ⟨o, _ | ⟨o', _ | ⟨o₃, _ | ⟨o₄, rest⟩⟩⟩⟩
  · rfl
  · rfl
  · exact matchingWith_map f g op o o' .standard
  · cases o₃ with
    | escape e => exact matchingWith_map f g op o o' e
    | _ => rfl
  · cases o₃ <;> rfl

end Operand

/-! ### Conditions -/

section Condition

variable (d : Dialect)

/-- An operand with the sessions of the condition and the query in it. -/
abbrev Part.sessions (p : Part) : Operand (Session String) (Session String) :=
  p.map Compiled.session Compiled.session

@[simp] theorem Fragment.session_entry (v : Value) :
    (Fragment.entry v).session = Session.entry v := by
  unfold Fragment.entry Session.entry
  split
  · exact Fragment.session_text "NULL"
  · exact Fragment.session_slot v

/-- A list of fragments, each made from one item, is written item by item. -/
theorem Fragment.session_join_map {α : Type} (separator : String) {F : α → Fragment}
    {k : α → Session String} (h : ∀ x, (F x).session = k x) (xs : List α) :
    (Fragment.join separator (xs.map F)).session =
      xs.mapM k >>= fun texts => pure (Text.join separator texts) := by
  rw [Fragment.session_join, List.mapM_map]
  simp only [Function.comp_def, h]

theorem Fragment.session_tuple (names : List String) (row : List (String × Value)) :
    (Fragment.tuple names row).session = Session.tuple names row := by
  simp [Fragment.tuple, Session.tuple, Fragment.session_join_map ", " fun n =>
    Fragment.session_entry (Operand.valueIn row n), String.append_assoc]

@[simp] theorem session_emptyList (negated : Bool) :
    (emptyList negated).session = pure (Session.emptyList negated) := by
  cases negated <;> simp [emptyList, Session.emptyList]

namespace Dialect

theorem session_listed (op : Operator) (column : String) (vs : List Value) :
    (d.listed op column vs).session = d.writeListed op column vs := by
  rcases vs with _ | ⟨v, _ | ⟨v', rest⟩⟩
  · simp [listed, writeListed]
  · simp [listed, writeListed]
  · simp only [listed, writeListed, Fragment.session_append, Fragment.session_text,
      Fragment.session_join_map ", " Fragment.session_entry, bind_assoc, pure_bind,
      String.append_assoc]

theorem session_inQuery (op : Operator) (names : List String) (q : Compiled) :
    (d.inQuery op names q).session = d.writeInQuery op names q.session :=
  Compiled.session_enclosed _ q ")"

theorem session_inRows (op : Operator) (names : List String)
    (rows : List (List (String × Value))) :
    (d.inRows op names rows).session = d.writeInRows op names rows := by
  simp [inRows, writeInRows, Fragment.session_join_map ", " (Fragment.session_tuple names),
    String.append_assoc]

theorem session_memberOf (op : Operator) (names : List String) (right : Part) :
    (d.memberOf op names right).session = d.writeMemberOf op names right.sessions := by
  unfold memberOf writeMemberOf
  rw [Operand.listsNothing_map]
  split
  · simp
  · next h =>
    -- both sides go by the number of columns, and then by the right-hand side
    rcases names with _ | ⟨name, _ | ⟨name', rest⟩⟩
    · exact absurd rfl h
    · cases right with
      | query q => exact d.session_inQuery op [name] q
      | _ =>
        simp only [Compiled.session_lift_map, session_listed]
        rfl
    · cases right with
      | query q => exact d.session_inQuery op (name :: name' :: rest) q
      | rows rs => exact d.session_inRows op (name :: name' :: rest) rs
      | _ => rfl

theorem session_asCondition (op : Operator) (message : String) (p : Part) :
    (p.asCondition op message).session = Session.ofOperand op message p.sessions := by
  cases p with
  | expr sql => exact Fragment.session_text sql
  | _ => rfl

theorem session_junction (op : Operator) (parts : List Part) :
    (junction op parts).session = writeJunction op (parts.map Part.sessions) := by
  rw [writeJunction, ← Compiled.mapM_session_map (session_asCondition op _)]
  refine Compiled.session_sequence_map fun fs _ => ?_
  -- the texts that are left come from the fragments that are left
  have hleft : (fs.mapM Fragment.session >>= fun texts =>
      if (texts.filter (!·.isEmpty)).isEmpty then pure ""
      else pure ("(" ++ Text.join (") " ++ op.text ++ " (") (texts.filter (!·.isEmpty)) ++ ")")) =
      (fs.filter (!·.isEmpty)).mapM Fragment.session >>= fun texts =>
        if texts.isEmpty then pure ""
        else pure ("(" ++ Text.join (") " ++ op.text ++ " (") texts ++ ")") := by
    rw [Fragment.mapM_session_filter, bind_assoc]
    simp only [pure_bind]
  rw [hleft]
  cases fs.filter (!·.isEmpty) with
  | nil => rfl
  | cons f rest =>
    simp only [Fragment.session_append, Fragment.session_text, Fragment.session_join,
      List.mapM_cons, bind_assoc, pure_bind, List.isEmpty_cons, Bool.false_eq_true, if_false,
      String.append_assoc]

theorem session_negation (op : Operator) (parts : List Part) :
    (negation op parts).session = writeNegation op (parts.map Part.sessions) := by
  rcases parts with _ | ⟨p, _ | ⟨p', rest⟩⟩
  · rfl
  · rw [negation, List.map_singleton, writeNegation, ← session_asCondition]
    refine Compiled.session_map (fun f => ?_) _
    rw [Fragment.session_bind_ite]
    cases f.isEmpty <;> simp [String.append_assoc]
  · rfl

theorem session_range (op : Operator) (parts : List Part) :
    (d.range op parts).session = d.writeRange op (parts.map Part.sessions) := by
  rcases parts with _ | ⟨p, _ | ⟨p', _ | ⟨p₃, _ | ⟨p₄, rest⟩⟩⟩⟩
  · rfl
  · rfl
  · rfl
  · simp [range, writeRange, String.append_assoc]
  · rfl

theorem session_membership (op : Operator) (parts : List Part) :
    (d.membership op parts).session = d.writeMembership op (parts.map Part.sessions) := by
  rcases parts with _ | ⟨p, _ | ⟨p', _ | ⟨p'', rest⟩⟩⟩
  · rfl
  · rfl
  · simp [membership, writeMembership, session_memberOf]
  · rfl

theorem session_fits (likeOp : LikeOp) (m : Operand.Matching) (v : Value) :
    (d.fits likeOp m v).session = d.writeFits likeOp m v :=
  Fragment.session_text_slot _ _

theorem session_like (op : Operator) (likeOp : LikeOp) (parts : List Part) :
    (d.like op likeOp parts).session = d.writeLike op likeOp (parts.map Part.sessions) := by
  rw [like, writeLike, Operand.matching_map, Compiled.session_lift_map]
  refine bind_congr fun m => ?_
  unfold fitsAny
  split
  · next h => simp [h]
  · next h =>
    rw [Fragment.session_join_map _ (d.session_fits likeOp m), if_neg (by simpa using h)]

theorem session_existence (op : Operator) (parts : List Part) :
    (existence op parts).session = writeExistence op (parts.map Part.sessions) := by
  rcases parts with _ | ⟨p, _ | ⟨p', rest⟩⟩
  · rfl
  · cases p with
    | query q => exact Compiled.session_enclosed (op.text ++ " (") q ")"
    | _ => rfl
  · cases p <;> rfl

theorem session_comparison (op : Operator) (parts : List Part) :
    (d.comparison op parts).session = d.writeComparison op (parts.map Part.sessions) := by
  rcases parts with _ | ⟨p, _ | ⟨p', _ | ⟨p'', rest⟩⟩⟩
  · rfl
  · rfl
  · rw [comparison, List.map_cons, List.map_singleton, writeComparison, Operand.asColumn_map,
      Compiled.session_lift_bind]
    refine bind_congr fun name => ?_
    have hleft : d.column name ++ " " ++ op.text ++ " " ++ "(" =
        d.column name ++ " " ++ op.text ++ " (" := by
      rw [String.append_assoc]
      rfl
    have hnull : d.column name ++ " " ++ op.text ++ " " ++ "NULL" =
        d.column name ++ " " ++ op.text ++ " NULL" := by
      rw [String.append_assoc]
      rfl
    -- what is neither a query nor null is read as a value, and the value is bound
    have hbound : ∀ x : Except Error Value,
        Compiled.session (Compiled.lift x >>= fun v =>
          .ok (Fragment.text (d.column name ++ " " ++ op.text ++ " ") ++ Fragment.slot v)) =
        Session.lift x >>= fun v => Session.slot v >>= fun value =>
          pure (d.column name ++ " " ++ op.text ++ " " ++ value) := by
      intro x
      rw [Compiled.session_lift_bind]
      exact bind_congr fun v => Fragment.session_text_slot _ v
    cases p' with
    | query q =>
      dsimp only
      rw [hleft]
      exact Compiled.session_enclosed _ q ")"
    | value v =>
      cases v with
      | null =>
        dsimp only
        rw [hnull]
        exact Fragment.session_text _
      | _ => exact hbound _
    | _ => exact hbound _
  · rfl

theorem session_operator (op : Operator) (parts : List Part) :
    (d.operator op parts).session = d.writeOperator op (parts.map Part.sessions) := by
  cases op with
  | and | or => exact session_junction _ parts
  | not => exact session_negation _ parts
  | between | notBetween => exact d.session_range _ parts
  | isIn | notIn => exact d.session_membership _ parts
  | like likeOp => exact d.session_like _ likeOp parts
  | hasRow | hasNoRow => exact session_existence _ parts
  | compare text => exact d.session_comparison _ parts

theorem session_pair (column : String) (v : HashValue Compiled) :
    (d.pair column v).session = d.writePair column (v.map Compiled.session) := by
  cases v with
  | list vs => exact d.session_listed .isIn column vs
  | query q => exact d.session_inQuery .isIn [column] q
  | value v =>
    cases v with
    | null => exact Fragment.session_text _
    | _ => exact Fragment.session_text_slot _ _

theorem session_hash (pairs : List (String × HashValue Compiled)) :
    (d.hash pairs).session =
      d.writeHash (pairs.map fun p => (p.1, p.2.map Compiled.session)) := by
  rw [writeHash, ← Compiled.mapM_session_map fun p => d.session_pair p.1 p.2]
  refine Compiled.session_sequence_map fun fs _ => ?_
  rcases fs with _ | ⟨f, _ | ⟨f', rest⟩⟩
  · rfl
  · simp
  · simp only [Fragment.session_append, Fragment.session_text, Fragment.session_join]
    simp [String.append_assoc]

/-- Filling a layer of a condition is writing it. -/
theorem session_conditionNode (n : ConditionNode Compiled Compiled) :
    (d.conditionNode n).session =
      d.writeConditionNode (n.map Compiled.session Compiled.session) := by
  cases n with
  | raw sql => exact Fragment.session_text sql
  | hash pairs => exact d.session_hash pairs
  | operator op parts => exact d.session_operator op parts

end Dialect

end Condition

/-! ### Clauses -/

section Clauses

variable (t : Target)

namespace Dialect

variable (d : Dialect)

theorem session_selectEntry (c : ColumnSpec Compiled) :
    (d.selectEntry c).session = d.writeSelectEntry (c.map Compiled.session) := by
  cases c with
  | subquery name q =>
    refine (Compiled.session_enclosed _ q _).trans (bind_congr fun sql => congrArg pure ?_)
    exact String.append_assoc.symm
  | aliased name expr => exact Fragment.session_text _
  | bare text => exact Fragment.session_text _

theorem session_tableEntry (s : TableSpec Compiled) :
    (d.tableEntry s).session = d.writeTableEntry (s.map Compiled.session) := by
  cases s with
  | subquery name q =>
    refine (Compiled.session_enclosed _ q _).trans (bind_congr fun sql => congrArg pure ?_)
    exact String.append_assoc.symm
  | aliased name table => exact Fragment.session_text _
  | bare text => exact Fragment.session_text _

theorem session_selectClause (columns : List (ColumnSpec Compiled)) (distinct : Bool)
    (option : Option String) :
    (d.selectClause columns distinct option).session =
      d.writeSelectClause (columns.map (·.map Compiled.session)) distinct option := by
  cases columns with
  | nil => exact Fragment.session_text _
  | cons c rest =>
    rw [writeSelectClause, ← Compiled.mapM_session_map d.session_selectEntry]
    refine Compiled.session_sequence_map fun fs _ => ?_
    simp [Fragment.session_join, String.append_assoc]

theorem session_fromClause (tables : List (TableSpec Compiled)) :
    (d.fromClause tables).session = d.writeFromClause (tables.map (·.map Compiled.session)) := by
  cases tables with
  | nil => rfl
  | cons s rest =>
    rw [writeFromClause, ← Compiled.mapM_session_map d.session_tableEntry]
    refine Compiled.session_sequence_map fun fs _ => ?_
    simp [Fragment.session_join]

theorem session_keywordClause (keyword : String) (condition : Option Compiled) :
    (keywordClause keyword condition).session =
      writeKeyword keyword (condition.map Compiled.session) := by
  cases condition with
  | none => rfl
  | some c =>
    refine Compiled.session_map (fun f => ?_) c
    rw [Fragment.session_bind_ite]
    cases f.isEmpty <;> simp

/-- A join from the texts of its table and of its condition. -/
def joined (words : String) : List String → Session String
  | [target, on] => pure (words ++ " " ++ target ++ on)
  | _ => pure ""

theorem session_joinEntry (j : Join Compiled Compiled) :
    (d.joinEntry j).session =
      d.writeJoinEntry (j.map Compiled.session Compiled.session) := by
  obtain ⟨joinType, table, on⟩ := j
  cases table with
  | none => exact Compiled.session_reject joinError
  | some s =>
    change Compiled.session (if (Text.trim joinType).isEmpty then Compiled.reject joinError
        else (Compiled.sequence [d.tableEntry s, keywordClause " ON " on]).map _) =
      if (Text.trim joinType).isEmpty then throw joinError
      else d.writeTableEntry (s.map Compiled.session) >>= fun target =>
        writeKeyword " ON " (on.map Compiled.session) >>= fun on =>
          pure (Text.trim joinType ++ " " ++ target ++ on)
    -- the type of the join is looked at before its table is written
    by_cases hwords : (Text.trim joinType).isEmpty = true
    · rw [if_pos hwords, if_pos hwords]
      exact Compiled.session_reject joinError
    · rw [if_neg hwords, if_neg hwords, ← session_tableEntry, ← session_keywordClause]
      refine (Compiled.session_sequence_map (k := joined (Text.trim joinType))
        fun fs hfs => ?_).trans ?_
      · obtain ⟨f, on, rfl⟩ := List.length_eq_two.mp hfs
        simp only [Fragment.session_append, Fragment.session_text, List.mapM_cons, List.mapM_nil,
          bind_assoc, pure_bind, joined]
      · simp only [List.mapM_cons, List.mapM_nil, bind_assoc, pure_bind, joined]

theorem session_unionEntry (u : UnionMember Compiled) :
    (unionEntry u).session = writeUnionEntry (u.map Compiled.session) := by
  obtain ⟨source, all⟩ := u
  cases source with
  | query q => exact Compiled.session_enclosed (unionHead all) q " )"
  | raw sql =>
    refine (Compiled.session_enclosed (unionHead all) (.ok (Fragment.text sql)) " )").trans ?_
    rw [Compiled.session_ok, Fragment.session_text]
    rfl

theorem session_unionClause (unions : List (UnionMember Compiled)) :
    (unionClause unions).session = writeUnionClause (unions.map (·.map Compiled.session)) := by
  rw [writeUnionClause, ← Compiled.mapM_session_map session_unionEntry]
  exact Compiled.session_sequence_map fun fs _ => Fragment.session_join " " fs

end Dialect

namespace Target

theorem session_joinClause (joins : List (Join Compiled Compiled)) :
    (t.joinClause joins).session =
      t.writeJoinClause (joins.map (·.map Compiled.session Compiled.session)) := by
  rw [writeJoinClause, ← Compiled.mapM_session_map t.dialect.session_joinEntry]
  exact Compiled.session_sequence_map fun fs _ => Fragment.session_join t.separator fs

theorem session_followedBy (f : Fragment) (clause : String) :
    (t.followedBy f clause).session =
      f.session >>= fun sql => pure (t.textFollowedBy sql clause) := by
  unfold followedBy textFollowedBy
  by_cases hclause : clause.isEmpty = true
  · simp only [if_pos hclause, bind_pure]
  · simp only [if_neg hclause, Fragment.session_append, Fragment.session_text, pure_bind,
      String.append_assoc]

/-- The clauses that are any text are written between separators. -/
theorem session_join_filter (fs : List Fragment) :
    (Fragment.join t.separator (fs.filter (!·.isEmpty))).session =
      fs.mapM Fragment.session >>= fun texts =>
        pure (Text.join t.separator (texts.filter (!·.isEmpty))) := by
  rw [Fragment.session_join, Fragment.mapM_session_filter, bind_assoc]
  simp only [pure_bind]

/-- A union that is any text is written behind the rest. -/
theorem session_united (body union : Fragment) :
    Fragment.session (if union.isEmpty then body
      else Fragment.text "(" ++ body ++ Fragment.text (")" ++ t.separator) ++ union) =
      body.session >>= fun sql => union.session >>= fun more =>
        if more.isEmpty then pure sql else pure ("(" ++ sql ++ ")" ++ t.separator ++ more) := by
  simp only [Fragment.session_bind_ite]
  cases h : union.isEmpty with
  | true =>
    simp only [if_true, Fragment.session_of_isEmpty h, pure_bind, bind_pure]
  | false =>
    simp only [Bool.false_eq_true, if_false, Fragment.session_append, Fragment.session_text,
      bind_assoc, pure_bind, String.append_assoc]

/-- A layer of a query from the texts of its clauses, the union last. -/
def assembled (n : QueryNode Compiled Compiled) : List String → Session String
  | [select, tables, joins, rows, groups, having, union] =>
    let clauses := [select, tables, joins, rows, groups, having].filter (!·.isEmpty)
    let body := Text.join t.separator clauses
    let body := t.textFollowedBy body (t.dialect.orderByClause n.orderBy)
    let body := t.textFollowedBy body (Dialect.limitClause n.limit n.offset)
    if union.isEmpty then pure body else pure ("(" ++ body ++ ")" ++ t.separator ++ union)
  | _ => pure ""

/-- Filling a layer of a query is writing it. -/
theorem session_queryNode (n : QueryNode Compiled Compiled) :
    (t.queryNode n).session = t.writeQueryNode (n.map Compiled.session Compiled.session) := by
  -- the clauses are written in a row, and then put together as texts
  refine (Compiled.session_sequence_map (k := t.assembled n) fun fs hfs => ?_).trans ?_
  · match fs, hfs with
    | [select, tables, joins, rows, groups, having, union], _ =>
      change Fragment.session (if union.isEmpty then _ else _) = _
      -- from the outside in: the union, the paging, the order, and the clauses
      rw [session_united, session_followedBy, session_followedBy, session_join_filter]
      simp only [List.mapM_cons, List.mapM_nil, bind_assoc, pure_bind, assembled]
  · simp only [List.mapM_cons, List.mapM_nil, bind_assoc, pure_bind, Compiled.session_ok,
      Fragment.session_text, Dialect.session_selectClause, Dialect.session_fromClause,
      session_joinClause, Dialect.whereClause, Dialect.havingClause,
      Dialect.session_keywordClause, Dialect.session_unionClause]
    rfl

/-! ### Whole trees -/

/-- **Writing a query is filling what it compiles to**, from every allocator. -/
theorem write_eq_session (q : Query) : t.write q = (t.query q).session :=
  ((fold_fusion t.dialect.session_conditionNode t.session_queryNode).2 q).symm

/-- **Writing a condition is filling what it compiles to**, from every allocator. -/
theorem writeCondition_eq_session (c : Condition) :
    t.writeCondition c = (t.condition c).session :=
  ((fold_fusion t.dialect.session_conditionNode t.session_queryNode).1 c).symm

/-- The statement of a query is what it compiles to, filled over its parameters. -/
theorem build_eq (q : Query) (seed : Params) :
    t.build q seed =
      let (sql, a) := (t.query q).fill (Allocator.new (q.collectParams seed))
      sql.map fun sql => ⟨sql, a.params⟩ := by
  rw [build, write_eq_session]
  rfl

end Target

end Clauses

end SqlCompose

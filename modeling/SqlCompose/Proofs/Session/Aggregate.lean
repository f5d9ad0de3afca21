import SqlCompose.Condition.Build
import SqlCompose.Dialect.MySql
import SqlCompose.Proofs.Session.Outcome
import SqlCompose.Query.Edit
import SqlCompose.Session.Statement
/-!
# Aggregates over the rows of a query

The rows of a query come from its **row source**: the tables, the joins and the condition on
rows (`Target.writeRowSource`). A query without grouping and union is written as its select
clause, the row source, and the ordering and paging behind it (`Target.writeQueryNode_plain`).

The query for an aggregate is always of this kind (`Query.aggregate_isPlain`), and its row
source is one of two:

* the row source of the query, if the rows of the query do not depend on its select list
  (`Target.write_replaced`);
* the query itself as a table, if they do (`Target.write_wrapped`).

Either way the aggregate starts from the parameters of the query, which may well be nested in
its tables (`Query.collectParams_wrapped`, `Query.collectParams_replaced`), and a select list
without subqueries binds nothing. So the row source is run from the same state for both, and
no placeholder is renamed (`Target.aggregate_rows`).
-/

namespace SqlCompose

namespace Target

variable (t : Target)

/-! ### Clauses one behind the other -/

/-- Clauses behind a text, each of them behind a separator of its own, if it is any text. -/
def behind : List String → String
  | [] => ""
  | clause :: clauses =>
    if clause.isEmpty then behind clauses else t.separator ++ clause ++ behind clauses

theorem behind_append (clauses clauses' : List String) :
    t.behind (clauses ++ clauses') = t.behind clauses ++ t.behind clauses' := by
  induction clauses with
  | nil => exact String.empty_append.symm
  | cons clause clauses ih =>
    rw [List.cons_append, behind, behind, ih]
    split
    · rfl
    · exact String.append_assoc.symm

/-- Joined clauses are the first one with the others behind it. -/
theorem join_filter_cons {head : String} (hhead : head ≠ "") (clauses : List String) :
    Text.join t.separator ((head :: clauses).filter (!·.isEmpty)) = head ++ t.behind clauses := by
  have hkeep : (head :: clauses).filter (!·.isEmpty) = head :: clauses.filter (!·.isEmpty) :=
    List.filter_cons_of_pos (by simpa using hhead)
  rw [hkeep]
  clear hkeep hhead
  induction clauses generalizing head with
  | nil => exact String.append_empty.symm
  | cons clause clauses ih =>
    rw [List.filter_cons, behind]
    cases hclause : clause.isEmpty with
    | true => exact ih
    | false =>
      -- the next clause takes the part of the head
      have hcons : Text.join t.separator (head :: clause :: clauses.filter (!·.isEmpty)) =
          head ++ t.separator ++
            Text.join t.separator (clause :: clauses.filter (!·.isEmpty)) := rfl
      change Text.join t.separator (head :: clause :: clauses.filter (!·.isEmpty)) =
        head ++ (t.separator ++ clause ++ t.behind clauses)
      rw [hcons, ih]
      simp only [String.append_assoc]

theorem textFollowedBy_eq (sql clause : String) :
    t.textFollowedBy sql clause = sql ++ t.behind [clause] := by
  rw [textFollowedBy, behind, behind]
  split
  · exact String.append_empty.symm
  · rw [String.append_empty, String.append_assoc]

/-! ### The row source -/

/-- Writes what the rows of a query come from, behind its select clause: the tables, the joins
and the condition on rows. -/
def writeRowSource (n : QueryNode (Session String) (Session String)) : Session String := do
  let tables ← t.dialect.writeFromClause n.tables
  let joins ← t.writeJoinClause n.joins
  let rows ← Dialect.writeKeyword "WHERE " n.filter
  pure (t.behind [tables, joins, rows])

/-- The ordering and the paging of a query, behind its row source. -/
def tail {κ θ : Type} (n : QueryNode κ θ) : String :=
  t.behind [t.dialect.orderByClause n.orderBy, Dialect.limitClause n.limit n.offset]

/-- **A query without grouping and union** whose select clause binds nothing. -/
theorem writeQueryNode_plain {n : QueryNode (Session String) (Session String)} {select : String}
    (hselect : t.dialect.writeSelectClause n.select n.distinct n.selectOption = pure select)
    (hsome : select ≠ "") (hgroup : n.groupBy = []) (hhaving : n.having = none)
    (hunions : n.unions = []) :
    t.writeQueryNode n =
      t.writeRowSource n >>= fun source => pure (select ++ source ++ t.tail n) := by
  have hunion : Dialect.writeUnionClause n.unions = pure "" := by
    rw [hunions]
    rfl
  have hnone : Dialect.writeKeyword "HAVING " n.having = pure "" := by
    rw [hhaving]
    rfl
  have hgroups : t.dialect.groupByClause n.groupBy = "" := by
    rw [hgroup]
    rfl
  unfold writeQueryNode writeRowSource
  dsimp only
  rw [hselect, hunion, hnone, hgroups]
  simp only [bind_assoc, pure_bind]
  refine bind_congr fun tables => bind_congr fun joins => bind_congr fun rows => ?_
  -- the clauses that are empty have nothing behind the row source
  have hbody : Text.join t.separator ([select, tables, joins, rows, "", ""].filter (!·.isEmpty)) =
      select ++ t.behind [tables, joins, rows] := by
    have hsource : t.behind [tables, joins, rows, "", ""] = t.behind [tables, joins, rows] := by
      rw [← String.append_empty (s := t.behind [tables, joins, rows])]
      exact t.behind_append [tables, joins, rows] ["", ""]
    rw [t.join_filter_cons hsome, hsource]
  have htail : t.tail n = t.behind [t.dialect.orderByClause n.orderBy] ++
      t.behind [Dialect.limitClause n.limit n.offset] := t.behind_append [_] [_]
  rw [hbody, textFollowedBy_eq, textFollowedBy_eq, String.append_assoc, ← htail]
  rfl

end Target

namespace Dialect

variable (d : Dialect)

/-- A select clause without subqueries is some text and binds nothing. -/
theorem writeSelectClause_plain {columns : List (ColumnSpec Query)}
    (hcolumns : ∀ name r, .subquery name r ∉ columns) (g : Query → Session String)
    (distinct : Bool) (option : Option String) :
    ∃ select, select ≠ "" ∧
      d.writeSelectClause (columns.map (·.map g)) distinct option = pure select := by
  have hentries : ∃ texts, (columns.map (·.map g)).mapM d.writeSelectEntry = pure texts := by
    induction columns with
    | nil => exact ⟨[], rfl⟩
    | cons c columns ih =>
      obtain ⟨texts, htexts⟩ := ih fun name r hr => hcolumns name r (List.mem_cons_of_mem c hr)
      have hentry : ∃ text, d.writeSelectEntry (c.map g) = pure text := by
        cases c with
        | subquery name r => exact absurd List.mem_cons_self (hcolumns name r)
        | aliased name expr => exact ⟨_, rfl⟩
        | bare text => exact ⟨_, rfl⟩
      obtain ⟨text, htext⟩ := hentry
      refine ⟨text :: texts, ?_⟩
      rw [List.map_cons, List.mapM_cons, htext, htexts]
      rfl
  obtain ⟨texts, htexts⟩ := hentries
  unfold writeSelectClause
  dsimp only
  -- every column, or the columns of the list
  split
  · exact ⟨selectHead distinct option ++ " *", by simp, rfl⟩
  · refine ⟨selectHead distinct option ++ " " ++ Text.join ", " texts, by simp, ?_⟩
    rw [htexts]
    rfl

/-- The select clause of an aggregate is the aggregate. -/
theorem writeSelectClause_aggregate {f : String} (hf : '(' ∈ f.toList) :
    d.writeSelectClause [.bare f] false none = pure ("SELECT " ++ f) := by
  have hexpression : Dialect.isExpression f = true := by
    rw [Dialect.isExpression, Text.has, List.contains_iff_mem]
    exact hf
  have hbare : d.bareColumn f = f := by
    rw [Dialect.bareColumn, if_pos hexpression]
  have hentry : d.writeSelectEntry (.bare f) = pure f := congrArg pure hbare
  have hhead : Dialect.selectHead false none ++ " " = "SELECT " := by decide
  rw [Dialect.writeSelectClause, List.mapM_cons, hentry]
  change (pure (Dialect.selectHead false none ++ " " ++ f) : Session String) = _
  rw [hhead]

end Dialect

/-! ### The query for an aggregate -/

namespace Query

/-- A query whose rows are those of its row source. -/
structure IsPlain (q : Query) : Prop where
  distinct : q.node.distinct = false
  groupBy : q.node.groupBy = []
  having : q.node.having = none
  unions : q.node.unions = []

theorem isPlain_iff (q : Query) : q.IsPlain ↔ q.dependsOnSelect = false := by
  simp only [dependsOnSelect, Bool.or_eq_false_iff, Bool.not_eq_false', List.isEmpty_iff,
    Option.isSome_eq_false_iff, Option.isNone_iff_eq_none]
  exact ⟨fun h => ⟨⟨⟨h.distinct, h.groupBy⟩, h.having⟩, h.unions⟩,
    fun ⟨⟨⟨h₁, h₂⟩, h₃⟩, h₄⟩ => ⟨h₁, h₂, h₃, h₄⟩⟩

/-- The rows of an aggregate are those of its row source. -/
theorem aggregate_isPlain (q : Query) (f : String) : (q.aggregate f).IsPlain := by
  by_cases hq : q.dependsOnSelect = true
  · rw [aggregate, if_pos hq]
    exact ⟨rfl, rfl, rfl, rfl⟩
  · have hplain : q.IsPlain := q.isPlain_iff.mpr (Bool.eq_false_iff.mpr hq)
    rw [aggregate, if_neg hq]
    exact ⟨hplain.distinct, hplain.groupBy, hplain.having, hplain.unions⟩

/-- What an aggregate leaves of the clauses around the row source. -/
theorem aggregate_node (q : Query) (f : String) :
    (q.aggregate f).node.select = [.bare f] ∧ (q.aggregate f).node.selectOption = none ∧
      (q.aggregate f).node.orderBy = [] ∧ (q.aggregate f).node.limit = none ∧
      (q.aggregate f).node.offset = none := by
  rw [aggregate]
  split <;> exact ⟨rfl, rfl, rfl, rfl, rfl⟩

/-- The query itself as a table has the parameters of the query. -/
theorem collectParams_wrapped {q : Query} (hq : ¬ q.IsPlain) (f : String) (seed : Params) :
    (q.aggregate f).collectParams seed = q.collectParams seed := by
  have hdepends : q.dependsOnSelect = true := by
    rwa [isPlain_iff, Bool.not_eq_false] at hq
  -- the query around has no parameters of its own
  have hinside : (q.aggregate f).paramsInside = .empty :: q.paramsInside := by
    rw [aggregate, if_pos hdepends, paramsInside, from_, fold_mk]
    simp [QueryNode.map, QueryNode.gather, select, empty, TableSpec.map, TableSpec.query?,
      ColumnSpec.map, ColumnSpec.query?, Params.empty, paramsInside]
  rw [collectParams, hinside]
  rfl

/-- A select list without subqueries has no parameters. -/
theorem collectParams_replaced {q : Query} (hq : q.IsPlain)
    (hselect : ∀ name r, .subquery name r ∉ q.node.select) (f : String) (seed : Params) :
    (q.aggregate f).collectParams seed = q.collectParams seed := by
  have hdepends : q.dependsOnSelect = false := q.isPlain_iff.mp hq
  obtain ⟨n⟩ := q
  have hnone : ∀ g : Query → List Params,
      (n.select.map (·.map g)).filterMap ColumnSpec.query? = [] := by
    intro g
    rw [List.filterMap_map, List.filterMap_eq_nil_iff]
    intro c hc
    cases c with
    | subquery name r => exact absurd hc (hselect name r)
    | aliased | bare => rfl
  -- only the select list is another one, and neither has a query in it
  have hinside : (Query.mk n |>.aggregate f).paramsInside = (Query.mk n).paramsInside := by
    rw [aggregate, hdepends, paramsInside, paramsInside]
    change Query.fold _ _ ⟨_⟩ = _
    rw [fold_mk, fold_mk]
    simp only [QueryNode.gather, QueryNode.map, hnone]
    rfl
  rw [collectParams, hinside]
  rfl

end Query

namespace Target

variable (t : Target)

/-! ### What is written and built for an aggregate -/

/-- **Queries with a part in common.** If two queries start from the same parameters and each is
written as one and the same part with some text around it, they fail together or are built
together, over the same values. -/
theorem build_of_shared {q q' : Query} {x : Session String} {around around' : String → String}
    (hq : t.write q = x >>= fun s => pure (around s))
    (hq' : t.write q' = x >>= fun s => pure (around' s)) {seed : Params}
    (hparams : q'.collectParams seed = q.collectParams seed) :
    (∃ e, t.build q seed = .error e ∧ t.build q' seed = .error e) ∨
      ∃ s a, x.runFrom (.new (q.collectParams seed)) = (.ok s, a) ∧
        t.build q seed = .ok ⟨around s, a.params⟩ ∧
        t.build q' seed = .ok ⟨around' s, a.params⟩ := by
  rw [build, build, hparams, hq, hq']
  rcases hrun : x.runFrom (.new (q.collectParams seed)) with ⟨e | s, a⟩
  · refine Or.inl ⟨e, ?_, ?_⟩
    · rw [Session.runFrom_bind_of_error hrun]
      rfl
    · rw [Session.runFrom_bind_of_error hrun]
      rfl
  · refine Or.inr ⟨s, a, rfl, ?_, ?_⟩
    · rw [Session.runFrom_bind_of_ok hrun]
      rfl
    · rw [Session.runFrom_bind_of_ok hrun]
      rfl

/-- A query with rows of its own has them from its row source. -/
theorem write_plain {q : Query} (hq : q.IsPlain) {select : String} (hsome : select ≠ "")
    (hselect : t.dialect.writeSelectClause (q.node.select.map (·.map t.write)) q.node.distinct
      q.node.selectOption = pure select) :
    t.write q = t.writeRowSource (q.node.map t.writeCondition t.write) >>=
      fun source => pure (select ++ source ++ t.tail q.node) := by
  have hhaving : q.node.having.map t.writeCondition = none := by rw [hq.having, Option.map_none]
  have hunions : q.node.unions.map (·.map t.write) = [] := by rw [hq.unions, List.map_nil]
  have hlayer : t.write q = t.writeQueryNode (q.node.map t.writeCondition t.write) := by
    cases q
    exact Query.fold_mk _ _ _
  rw [hlayer]
  exact t.writeQueryNode_plain hselect hsome hq.groupBy hhaving hunions

/-- A query for an aggregate is the aggregate behind `SELECT` and a row source. -/
theorem write_aggregate (q : Query) {f : String} (hf : '(' ∈ f.toList) :
    t.write (q.aggregate f) =
      t.writeRowSource ((q.aggregate f).node.map t.writeCondition t.write) >>=
        fun source => pure ("SELECT " ++ f ++ source) := by
  have hplain := q.aggregate_isPlain f
  obtain ⟨hselect, hoption, horder, hlimit, hoffset⟩ := q.aggregate_node f
  have hclause : t.dialect.writeSelectClause ((q.aggregate f).node.select.map (·.map t.write))
      (q.aggregate f).node.distinct (q.aggregate f).node.selectOption =
        pure ("SELECT " ++ f) := by
    rw [hselect, hoption, hplain.distinct]
    exact t.dialect.writeSelectClause_aggregate hf
  -- nothing is ordered and nothing left out
  have htail : t.tail (q.aggregate f).node = "" := by
    rw [tail, horder, hlimit, hoffset]
    rfl
  rw [t.write_plain hplain (by simp) hclause, htail]
  simp only [String.append_empty]

/-- The aggregate of a query with rows of its own takes the place of the select list. -/
theorem write_replaced {q : Query} (hq : q.IsPlain) {f : String} (hf : '(' ∈ f.toList) :
    t.write (q.aggregate f) = t.writeRowSource (q.node.map t.writeCondition t.write) >>=
      fun source => pure ("SELECT " ++ f ++ source) := by
  rw [t.write_aggregate q hf, Query.aggregate, if_neg (by simpa using q.isPlain_iff.mp hq)]
  rfl

/-- The row source of a query that has another one as its only table. -/
theorem writeRowSource_subquery (name : String) (q : Session String)
    (select : List (ColumnSpec (Session String))) :
    t.writeRowSource { select, tables := [.subquery name q] } = q >>= fun sql =>
      pure (t.separator ++ "FROM (" ++ sql ++ ") " ++ t.dialect.quoteTable name) := by
  have htables : t.dialect.writeFromClause [.subquery name q] = q >>= fun sql =>
      pure ("FROM (" ++ sql ++ ") " ++ t.dialect.quoteTable name) := by
    have hfrom : "FROM (" = "FROM " ++ "(" := by decide
    simp [Dialect.writeFromClause, Dialect.writeTableEntry, Text.join, hfrom, String.append_assoc,
      -String.reduceAppend]
  have hjoins : t.writeJoinClause [] = pure "" := rfl
  have hrows : Dialect.writeKeyword "WHERE " none = pure "" := rfl
  unfold writeRowSource
  dsimp only
  rw [htables, hjoins, hrows]
  simp only [bind_assoc, pure_bind]
  refine bind_congr fun sql => congrArg pure ?_
  simp [behind, String.append_assoc]

/-- A query whose rows depend on its select list is asked as a table. -/
theorem write_wrapped {q : Query} (hq : ¬ q.IsPlain) {f : String} (hf : '(' ∈ f.toList) :
    t.write (q.aggregate f) = t.write q >>= fun sql =>
      pure ("SELECT " ++ f ++ t.separator ++ "FROM (" ++ sql ++ ") " ++
        t.dialect.quoteTable "c") := by
  have hdepends : q.dependsOnSelect = true := by
    rwa [Query.isPlain_iff, Bool.not_eq_false] at hq
  have hsource := t.writeRowSource_subquery "c" (t.write q) [.bare f]
  rw [t.write_aggregate q hf, Query.aggregate, if_pos hdepends]
  change t.writeRowSource { select := [.bare f], tables := [.subquery "c" (t.write q)] } >>= _ = _
  rw [hsource]
  simp only [bind_assoc, pure_bind, String.append_assoc]

/-- **Aggregates run over the rows of the query.** Let the aggregate be an expression. If the rows
of the query depend on its select list, the aggregate is taken of the query as a table: either
neither can be written, for the same reason, or the text of the aggregate has that of the query
in it and the parameters are the same. If not, and there is no subquery in the select list, the
text of the query is its select clause, its row source and its ordering and paging; that of the
aggregate is the aggregate and the same row source, and again the parameters are the same. -/
theorem aggregate_rows {f : String} (hf : '(' ∈ f.toList) (q : Query) (seed : Params) :
    (¬ q.IsPlain →
      (∃ e, t.build q seed = .error e ∧ t.build (q.aggregate f) seed = .error e) ∨
        ∃ st, t.build q seed = .ok st ∧
          t.build (q.aggregate f) seed = .ok
            ⟨"SELECT " ++ f ++ t.separator ++ "FROM (" ++ st.sql ++ ") " ++
              t.dialect.quoteTable "c", st.params⟩) ∧
    (q.IsPlain → (∀ name r, .subquery name r ∉ q.node.select) →
      (∃ e, t.build q seed = .error e ∧ t.build (q.aggregate f) seed = .error e) ∨
        ∃ (select source : String) (a : Allocator),
          (t.dialect.writeSelectClause (q.node.select.map (·.map t.write)) q.node.distinct
              q.node.selectOption).runFrom (.new (q.collectParams seed)) =
            (.ok select, .new (q.collectParams seed)) ∧
          (t.writeRowSource (q.node.map t.writeCondition t.write)).runFrom
              (.new (q.collectParams seed)) = (.ok source, a) ∧
          t.build q seed = .ok ⟨select ++ source ++ t.tail q.node, a.params⟩ ∧
          t.build (q.aggregate f) seed = .ok ⟨"SELECT " ++ f ++ source, a.params⟩) := by
  constructor
  · intro hq
    -- what both have is the text of the query
    have hwrite : t.write q = t.write q >>= fun sql => pure (id sql) := (bind_pure _).symm
    rcases t.build_of_shared hwrite (t.write_wrapped hq hf) (Query.collectParams_wrapped hq f seed)
      with hfail | ⟨sql, a, -, hbuild, haggregate⟩
    · exact Or.inl hfail
    · exact Or.inr ⟨⟨sql, a.params⟩, hbuild, haggregate⟩
  · intro hq hcolumns
    -- what both have is the text of the row source
    obtain ⟨select, hsome, hselect⟩ := t.dialect.writeSelectClause_plain hcolumns t.write
      q.node.distinct q.node.selectOption
    rcases t.build_of_shared (t.write_plain hq hsome hselect) (t.write_replaced hq hf)
      (Query.collectParams_replaced hq hcolumns f seed)
      with hfail | ⟨source, a, hsource, hbuild, haggregate⟩
    · exact Or.inl hfail
    · refine Or.inr ⟨select, source, a, ?_, hsource, hbuild, haggregate⟩
      rw [hselect]
      rfl

/-- The number of the rows of a query, and of its distinct rows. -/
theorem aggregate_rows_counted :
    let t : Target := { dialect := Dialect.mysql }
    let q : Query := ⟨{
      select := [.bare "a"]
      tables := [.bare "s"]
      joins := [⟨"JOIN", some (.bare "u"), some (.eq "l" (.value (.int 5)))⟩]
      filter := some (.eq "k" (.value (.int 7)))
      orderBy := [("a", .desc)]
      limit := some 3 }⟩
    let f : String := "COUNT(*)"
    '(' ∈ f.toList ∧ q.IsPlain ∧ ¬ (q.distinct true).IsPlain ∧
      (∃ (select source : String) (a : Allocator),
        (t.writeRowSource (q.node.map t.writeCondition t.write)).runFrom
          (.new (q.collectParams .empty)) = (.ok source, a) ∧
        t.build q .empty = .ok ⟨select ++ source ++ t.tail q.node, a.params⟩ ∧
        t.build (q.aggregate f) .empty = .ok ⟨"SELECT " ++ f ++ source, a.params⟩) ∧
      ∃ st, t.build (q.distinct true) .empty = .ok st ∧
        t.build ((q.distinct true).aggregate f) .empty = .ok
          ⟨"SELECT " ++ f ++ t.separator ++ "FROM (" ++ st.sql ++ ") " ++
            t.dialect.quoteTable "c", st.params⟩ := by
  intro t q f
  have hf : '(' ∈ f.toList := by decide
  have hplain : q.IsPlain := ⟨rfl, rfl, rfl, rfl⟩
  have hdistinct : ¬ (q.distinct true).IsPlain := fun h => Bool.noConfusion h.distinct
  have hcolumns : ∀ name r, .subquery name r ∉ q.node.select := by
    intro name r hmem
    cases List.mem_singleton.mp hmem
  refine ⟨hf, hplain, hdistinct, ?_, ?_⟩
  · rcases (t.aggregate_rows hf q .empty).2 hplain hcolumns with
      ⟨e, hfail, -⟩ | ⟨select, source, a, -, hsource, hq, haggregate⟩
    · have hok : (t.build q .empty).isOk = true := by decide +kernel
      rw [hfail] at hok
      cases hok
    · exact ⟨select, source, a, hsource, hq, haggregate⟩
  · rcases (t.aggregate_rows hf (q.distinct true) .empty).1 hdistinct with ⟨e, hfail, -⟩ | h
    · have hok : (t.build (q.distinct true) .empty).isOk = true := by decide +kernel
      rw [hfail] at hok
      cases hok
    · exact h

end Target

end SqlCompose

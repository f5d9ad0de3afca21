import SqlCompose.Proofs.Parallel.Condition
import SqlCompose.Session.Statement
/-!
# Queries under similar targets

The clauses of a query, each with its lemma, and from these whole queries and conditions: under
similar targets they bind the same values to the same placeholders, fail with the same errors
and are written as related texts (`Target.Similar.related`), so that their statements are related
(`Target.build_of_related`).
-/

namespace SqlCompose.Target

namespace Similar

open Session

variable {G : String → Prop} {R : String → String → Prop} {t t' : Target} (h : Similar G R t t')

include h

/-! ### Clauses -/

theorem selectEntry {c : ColumnSpec Twin} (hc : ∀ name x, c = .subquery name x → x.Alike R)
    (htexts : ∀ s ∈ c.texts, G s) :
    Related R (t.dialect.writeSelectEntry (c.map Prod.fst))
      (t'.dialect.writeSelectEntry (c.map Prod.snd)) := by
  cases c with
  | subquery name x =>
    refine Related.map (hc name x rfl) fun s s' hs => ?_
    have hname := h.quoteColumn (htexts name (List.mem_singleton_self name))
    exact h.enclosed_before " AS " (by decide) hs hname
  | aliased name expr =>
    exact related_pure (h.aliasedColumn (htexts name (by simp [ColumnSpec.texts]))
      (htexts expr (by simp [ColumnSpec.texts])))
  | bare text => exact related_pure (h.bareColumn (htexts text (List.mem_singleton_self text)))

theorem selectClause {columns : List (ColumnSpec Twin)}
    (hcolumns : ∀ name x, .subquery name x ∈ columns → Twin.Alike R x)
    (htexts : ∀ c ∈ columns, ∀ s ∈ c.texts, G s) (distinct : Bool)
    {option : Option String} (hoption : ∀ s ∈ option, G s) :
    Related R (t.dialect.writeSelectClause (columns.map (·.map Prod.fst)) distinct option)
      (t'.dialect.writeSelectClause (columns.map (·.map Prod.snd)) distinct option) := by
  have hhead := h.selectHead distinct hoption
  unfold Dialect.writeSelectClause
  dsimp only
  rw [List.isEmpty_map, List.isEmpty_map, List.mapM_map, List.mapM_map]
  split
  · exact related_pure (h.append hhead (h.word (by decide)))
  · refine (related_mapM fun c hc => h.selectEntry (fun name x hx => ?_) (htexts c hc)).map
      fun ss ss' hss => ?_
    · exact hcolumns name x (hx ▸ hc)
    · exact h.between (by decide) hhead (h.join (h.word (by decide)) hss)

theorem tableEntry {s : TableSpec Twin} (hs : ∀ name x, s = .subquery name x → x.Alike R)
    (htexts : ∀ s' ∈ s.texts, G s') :
    Related R (t.dialect.writeTableEntry (s.map Prod.fst))
      (t'.dialect.writeTableEntry (s.map Prod.snd)) := by
  cases s with
  | subquery name x =>
    refine Related.map (hs name x rfl) fun s s' hs => ?_
    have hname := h.quoteTable (htexts name (List.mem_singleton_self name))
    exact h.enclosed_before " " (by decide) hs hname
  | aliased name table =>
    exact related_pure (h.aliasedTable (htexts name (by simp [TableSpec.texts]))
      (htexts table (by simp [TableSpec.texts])))
  | bare text => exact related_pure (h.bareTable (htexts text (List.mem_singleton_self text)))

theorem fromClause {tables : List (TableSpec Twin)}
    (htables : ∀ name x, .subquery name x ∈ tables → Twin.Alike R x)
    (htexts : ∀ s ∈ tables, ∀ s' ∈ s.texts, G s') :
    Related R (t.dialect.writeFromClause (tables.map (·.map Prod.fst)))
      (t'.dialect.writeFromClause (tables.map (·.map Prod.snd))) := by
  unfold Dialect.writeFromClause
  rw [List.isEmpty_map, List.isEmpty_map, List.mapM_map, List.mapM_map]
  split
  · exact related_pure (h.word (by decide))
  · refine (related_mapM fun s hs => h.tableEntry (fun name x hx => ?_) (htexts s hs)).map
      fun ss ss' hss => ?_
    · exact htables name x (hx ▸ hs)
    · exact h.append (h.word (by decide)) (h.join (h.word (by decide)) hss)

theorem keyword {word : String} (hword : Text.OwnWord word) {condition : Option Twin}
    (hcondition : ∀ x, condition = some x → x.Alike R) :
    Related R (Dialect.writeKeyword word (condition.map Prod.fst))
      (Dialect.writeKeyword word (condition.map Prod.snd)) := by
  cases condition with
  | none => exact related_pure (h.word (by decide))
  | some x =>
    refine Related.bind (hcondition x rfl) fun s s' hs => ?_
    -- the keyword is written in front of a condition that is any text
    rw [h.isEmpty hs]
    split
    · exact related_pure hs
    · exact related_pure (h.append (h.word hword) hs)

theorem joinEntry {j : Join Twin Twin}
    (hjoined : ∀ name x, j.table = some (.subquery name x) → Twin.Alike R x)
    (hon : ∀ x, j.on = some x → x.Alike R) (htexts : ∀ s ∈ j.texts, G s) :
    Related R (t.dialect.writeJoinEntry (j.map Prod.fst Prod.fst))
      (t'.dialect.writeJoinEntry (j.map Prod.snd Prod.snd)) := by
  obtain ⟨joinType, table, on⟩ := j
  have hwords : R (Text.trim joinType) (Text.trim joinType) :=
    h.given (h.trim (htexts joinType List.mem_cons_self))
  unfold Dialect.writeJoinEntry Join.map
  -- a join without table or without words is refused under both targets
  cases table with
  | none => exact related_throw _
  | some s =>
    dsimp only [Option.map_some]
    split
    · exact related_throw _
    · have htarget := h.tableEntry (fun name x hx => hjoined name x (congrArg some hx))
        fun s' hs' => htexts s' (List.mem_cons_of_mem _ hs')
      refine htarget.bind fun u u' hu => ?_
      refine (h.keyword (by decide) hon).map fun v v' hv => ?_
      exact h.append (h.between (by decide) hwords hu) hv

theorem joinClause {joins : List (Join Twin Twin)}
    (hjoined : ∀ j ∈ joins, ∀ name x, j.table = some (.subquery name x) → Twin.Alike R x)
    (hon : ∀ j ∈ joins, ∀ x, j.on = some x → x.Alike R)
    (htexts : ∀ j ∈ joins, ∀ s ∈ j.texts, G s) :
    Related R (t.writeJoinClause (joins.map (·.map Prod.fst Prod.fst)))
      (t'.writeJoinClause (joins.map (·.map Prod.snd Prod.snd))) := by
  unfold Target.writeJoinClause
  rw [List.mapM_map, List.mapM_map]
  refine (related_mapM fun j hj => h.joinEntry (hjoined j hj) (hon j hj) (htexts j hj)).map
    fun ss ss' hss => ?_
  exact h.join h.separator hss

theorem unionEntry {u : UnionMember Twin} (hu : ∀ x, u.source = .query x → x.Alike R)
    (htexts : ∀ s ∈ u.texts, G s) :
    Related R (Dialect.writeUnionEntry (u.map Prod.fst))
      (Dialect.writeUnionEntry (u.map Prod.snd)) := by
  obtain ⟨source, all⟩ := u
  -- the member stands in parentheses, with blanks inside them
  have hmember : ∀ s s', R s s' →
      R (Dialect.unionHead all ++ s ++ " )") (Dialect.unionHead all ++ s' ++ " )") := by
    intro s s' hs
    have hassoc : ∀ s, Dialect.unionHead all ++ s ++ " )" =
        (if all then "UNION ALL" else "UNION") ++ " (" ++ (" " ++ s ++ " ") ++ ")" := by
      intro s
      rw [← String.toList_inj]
      cases all <;> simp [Dialect.unionHead]
    have hblank : R " " " " := h.word (by decide)
    have hhead : Text.OwnWord (if all then "UNION ALL" else "UNION") := by cases all <;> decide
    rw [hassoc, hassoc]
    exact h.before_enclosed (h.word hhead) (h.append (h.append hblank hs) hblank)
  cases source with
  | query x => exact Related.map (hu x rfl) hmember
  | raw sql =>
    have hsql : Related R (pure sql) (pure sql) :=
      related_pure (h.given (htexts sql (List.mem_singleton_self sql)))
    exact hsql.map hmember

theorem unionClause {unions : List (UnionMember Twin)}
    (hunions : ∀ u ∈ unions, ∀ x, u.source = .query x → x.Alike R)
    (htexts : ∀ u ∈ unions, ∀ s ∈ u.texts, G s) :
    Related R (Dialect.writeUnionClause (unions.map (·.map Prod.fst)))
      (Dialect.writeUnionClause (unions.map (·.map Prod.snd))) := by
  unfold Dialect.writeUnionClause
  rw [List.mapM_map, List.mapM_map]
  refine (related_mapM fun u hu => h.unionEntry (hunions u hu) (htexts u hu)).map
    fun ss ss' hss => ?_
  exact h.join (h.word (by decide)) hss

/-! ### Layers of queries -/

/-- A text and a clause behind it. -/
theorem textFollowedBy {s s' clause clause' : String} (hs : R s s') (hclause : R clause clause') :
    R (t.textFollowedBy s clause) (t'.textFollowedBy s' clause') := by
  unfold Target.textFollowedBy
  rw [h.isEmpty hclause]
  split
  · exact hs
  · exact h.append (h.append hs h.separator) hclause

/-- **A layer of a query** is written as related texts if what stands inside is. -/
theorem queryNode {n : QueryNode Twin Twin} (hn : n.Each (Twin.Alike R) (Twin.Alike R))
    (htexts : ∀ s ∈ n.ownTexts, G s) :
    Related R (t.writeQueryNode (n.map Prod.fst Prod.fst))
      (t'.writeQueryNode (n.map Prod.snd Prod.snd)) := by
  simp only [QueryNode.ownTexts, List.mem_append, or_imp, forall_and] at htexts
  obtain ⟨⟨⟨⟨⟨⟨hselected, hoption⟩, htables⟩, hjoins⟩, hgroups⟩, hordering⟩, hunions⟩ := htexts
  have hselect := h.selectClause hn.selected
    (fun c hc s hs => hselected s (List.mem_flatMap.mpr ⟨c, hc, hs⟩)) n.distinct
    fun s hs => hoption s (Option.mem_toList.mpr hs)
  have hfrom := h.fromClause hn.tables
    fun s hs s' hs' => htables s' (List.mem_flatMap.mpr ⟨s, hs, hs'⟩)
  have hjoin := h.joinClause hn.joined hn.on
    fun j hj s hs => hjoins s (List.mem_flatMap.mpr ⟨j, hj, hs⟩)
  have hwords : Text.OwnWord "WHERE " ∧ Text.OwnWord "HAVING " := by decide
  have hwhere := h.keyword hwords.1 hn.filter
  have hgroup := h.groupByClause hgroups
  have hhaving := h.keyword hwords.2 hn.having
  have horder : R (t.dialect.orderByClause n.orderBy) (t'.dialect.orderByClause n.orderBy) :=
    h.orderByClause fun e he => hordering e.1 (List.mem_map_of_mem he)
  have hlimit := h.limitClause n.limit n.offset
  have hunion := h.unionClause hn.united
    fun u hu s hs => hunions s (List.mem_flatMap.mpr ⟨u, hu, hs⟩)
  -- clause by clause, and the union behind the text of all clauses
  refine hselect.bind fun s₁ u₁ h₁ => hfrom.bind fun s₂ u₂ h₂ => hjoin.bind fun s₃ u₃ h₃ => ?_
  refine hwhere.bind fun s₄ u₄ h₄ => hhaving.bind fun s₆ u₆ h₆ => hunion.bind fun s₇ u₇ h₇ => ?_
  have hclauses := h.join h.separator (h.filter
    (.cons h₁ (.cons h₂ (.cons h₃ (.cons h₄ (.cons hgroup (.cons h₆ .nil)))))))
  have hbody := h.textFollowedBy (h.textFollowedBy hclauses horder) hlimit
  rw [h.isEmpty h₇]
  split
  · exact related_pure hbody
  · exact related_pure (h.append (h.append (h.enclosed hbody) h.separator) h₇)

/-! ### Trees -/

/-- **Trees under similar targets.** Conditions and queries all of whose texts, at any depth, are
texts of the caller are written alike. -/
theorem related :
    (∀ c : Condition, (∀ s ∈ c.texts, G s) →
      Related R (t.writeCondition c) (t'.writeCondition c)) ∧
    ∀ q : Query, (∀ s ∈ q.texts, G s) → Related R (t.write q) (t'.write q) := by
  -- a layer for each target is one half of the layer over twins
  let twinCondition (c : Condition) : Twin := (t.writeCondition c, t'.writeCondition c)
  let twinQuery (q : Query) : Twin := (t.write q, t'.write q)
  refine layer_induction ?_ ?_
  · intro n ihc ihq htexts
    have hleft : t.writeCondition ⟨n⟩ = t.dialect.writeConditionNode
        ((n.map twinCondition twinQuery).map Prod.fst Prod.fst) := by
      rw [writeCondition, Condition.fold_mk, ConditionNode.map_map]
      rfl
    have hright : t'.writeCondition ⟨n⟩ = t'.dialect.writeConditionNode
        ((n.map twinCondition twinQuery).map Prod.snd Prod.snd) := by
      rw [writeCondition, Condition.fold_mk, ConditionNode.map_map]
      rfl
    rw [hleft, hright]
    refine h.conditionNode (ConditionNode.each_map ?_ ?_) ?_
    · exact fun c hc => ihc c hc fun s hs =>
        htexts s (Condition.mem_texts_mk.mpr (Or.inr ⟨.inl c, hc, hs⟩))
    · exact fun q hq => ihq q hq fun s hs =>
        htexts s (Condition.mem_texts_mk.mpr (Or.inr ⟨.inr q, hq, hs⟩))
    · rw [ConditionNode.ownTexts_map]
      exact fun s hs => htexts s (Condition.mem_texts_mk.mpr (Or.inl hs))
  · intro n ihc ihq htexts
    have hleft : t.write ⟨n⟩ = t.writeQueryNode
        ((n.map twinCondition twinQuery).map Prod.fst Prod.fst) := by
      rw [write, Query.fold_mk, QueryNode.map_map]
      rfl
    have hright : t'.write ⟨n⟩ = t'.writeQueryNode
        ((n.map twinCondition twinQuery).map Prod.snd Prod.snd) := by
      rw [write, Query.fold_mk, QueryNode.map_map]
      rfl
    rw [hleft, hright]
    refine h.queryNode (QueryNode.each_map ?_ ?_) ?_
    · exact fun c hc => ihc c hc fun s hs =>
        htexts s (Query.mem_texts_mk.mpr (Or.inr ⟨.inl c, hc, hs⟩))
    · exact fun q hq => ihq q hq fun s hs =>
        htexts s (Query.mem_texts_mk.mpr (Or.inr ⟨.inr q, hq, hs⟩))
    · rw [QueryNode.ownTexts_map]
      exact fun s hs => htexts s (Query.mem_texts_mk.mpr (Or.inl hs))

end Similar

/-- Related sessions come to statements with the same parameters. -/
theorem build_of_related {R : String → String → Prop} {t t' : Target} {q : Query}
    (h : Session.Related R (t.write q) (t'.write q)) (seed : Params) :
    (∃ e, t.build q seed = .error e ∧ t'.build q seed = .error e) ∨
      ∃ st st', R st.sql st'.sql ∧ st.params = st'.params ∧
        t.build q seed = .ok st ∧ t'.build q seed = .ok st' := by
  unfold build
  obtain ⟨a', ⟨e, hx, hy⟩ | ⟨s, s', hs, hx, hy⟩⟩ := h (.new (q.collectParams seed))
  · rw [hx, hy]
    exact Or.inl ⟨e, rfl, rfl⟩
  · rw [hx, hy]
    exact Or.inr ⟨⟨s, a'.params⟩, ⟨s', a'.params⟩, hs, rfl, rfl, rfl⟩

end SqlCompose.Target

import SqlCompose.Compile.Statement
import SqlCompose.Proofs.Positional.Condition
/-!
# Queries compile to readable fragments

The clauses of a query, each with its lemma, and from these whole queries and
conditions: if all texts at any depth are clean, what they compile to is readable
(`Target.readable_of_clean`). The text between clauses has to be neutral and to start apart,
as the blank does.
-/

namespace SqlCompose

open Positional

namespace Dialect

variable {d : Dialect} (hd : d.Quotes)

include hd

theorem readable_selectEntry {c : ColumnSpec Compiled}
    (hc : ∀ name q, c = .subquery name q → q.Readable) (htexts : ∀ s ∈ c.texts, Clean s) :
    (d.selectEntry c).Readable := by
  cases c with
  | subquery name q =>
    have hname : Clean name := htexts name (List.mem_singleton_self _)
    have has : Delimits ") AS " := ⟨Clean.neutral (by decide), _, _, rfl, rfl⟩
    exact (hc name q rfl).map fun f hf => hf.enclosed neutral_opening
      (has.append (hd.neutral_quoteColumn hname))
  | aliased name expr =>
    exact Compiled.readable_ok (Fragment.readable_text
      (hd.neutral_aliasedColumn (htexts name (by simp [ColumnSpec.texts]))
        (htexts expr (by simp [ColumnSpec.texts]))))
  | bare text =>
    exact Compiled.readable_ok (Fragment.readable_text
      (hd.neutral_bareColumn (htexts text (List.mem_singleton_self _))))

theorem readable_tableEntry {s : TableSpec Compiled}
    (hs : ∀ name q, s = .subquery name q → q.Readable) (htexts : ∀ s' ∈ s.texts, Clean s') :
    (d.tableEntry s).Readable := by
  cases s with
  | subquery name q =>
    have hname : Clean name := htexts name (List.mem_singleton_self _)
    exact (hs name q rfl).map fun f hf => hf.enclosed neutral_opening
      (delimits_closing_blank.append (hd.neutral_quoteTable hname))
  | aliased name table =>
    exact Compiled.readable_ok (Fragment.readable_text
      (hd.neutral_aliasedTable (htexts name (by simp [TableSpec.texts]))
        (htexts table (by simp [TableSpec.texts]))))
  | bare text =>
    exact Compiled.readable_ok (Fragment.readable_text
      (hd.neutral_bareTable (htexts text (List.mem_singleton_self _))))

theorem readable_selectClause {columns : List (ColumnSpec Compiled)}
    (hcolumns : ∀ name q, .subquery name q ∈ columns → q.Readable)
    (htexts : ∀ c ∈ columns, ∀ s ∈ c.texts, Clean s) (distinct : Bool) {option : Option String}
    (hoption : ∀ s ∈ option, Clean s) : (d.selectClause columns distinct option).Readable := by
  have hhead : Neutral (selectHead distinct option) := neutral_selectHead distinct hoption
  have hall : Clean " *" := by decide
  unfold selectClause
  split
  · exact Compiled.readable_ok (Fragment.readable_text (hhead.append hall.neutral))
  · refine Compiled.readable_sequence_map (fun c' hc' => ?_) fun fs hfs => ?_
    · obtain ⟨c, hc, rfl⟩ := List.mem_map.mp hc'
      exact readable_selectEntry hd (fun name q h => hcolumns name q (h ▸ hc)) (htexts c hc)
    · exact Fragment.Readable.text_append (hhead.append neutral_blank)
        (Fragment.readable_join delimits_comma hfs)

theorem readable_fromClause {tables : List (TableSpec Compiled)}
    (htables : ∀ name q, .subquery name q ∈ tables → q.Readable)
    (htexts : ∀ s ∈ tables, ∀ s' ∈ s.texts, Clean s') : (d.fromClause tables).Readable := by
  have hfrom : Clean "FROM " := by decide
  unfold fromClause
  split
  · exact Compiled.readable_ok trivial
  · refine Compiled.readable_sequence_map (fun c hc => ?_) fun fs hfs => ?_
    · obtain ⟨s, hs, rfl⟩ := List.mem_map.mp hc
      exact readable_tableEntry hd (fun name q h => htables name q (h ▸ hs)) (htexts s hs)
    · exact Fragment.Readable.text_append hfrom.neutral
        (Fragment.readable_join delimits_comma hfs)

omit hd in
/-- A condition behind a keyword is readable, and if the keyword starts apart, so does it. -/
theorem readable_keywordClause {keyword : String} (hkeyword : Neutral keyword)
    {condition : Option Compiled} (hcondition : ∀ c, condition = some c → c.Readable) :
    (keywordClause keyword condition).Readable := by
  cases condition with
  | none => exact Compiled.readable_ok trivial
  | some c =>
    refine (hcondition c rfl).map fun f hf => ?_
    split
    · exact hf
    · exact Fragment.Readable.text_append hkeyword hf

omit hd in
theorem startsApart_keywordClause {keyword : String} (hkeyword : Apart keyword)
    {condition : Option Compiled} {f : Fragment} (h : keywordClause keyword condition = .ok f) :
    f.StartsApart := by
  cases condition with
  | none =>
    cases h
    exact trivial
  | some c =>
    cases c with
    | error r => cases h
    | ok g =>
      cases h
      dsimp only
      split
      · next hempty => exact Fragment.startsApart_of_isEmpty hempty
      · exact Fragment.startsApart_text_append hkeyword g

theorem readable_joinEntry {j : Join Compiled Compiled}
    (hjoined : ∀ name q, j.table = some (.subquery name q) → q.Readable)
    (hon : ∀ c, j.on = some c → c.Readable) (htexts : ∀ s ∈ j.texts, Clean s) :
    (d.joinEntry j).Readable := by
  obtain ⟨joinType, table, on⟩ := j
  have hwords : Clean (Text.trim joinType) :=
    Text.Over.trim (htexts joinType List.mem_cons_self)
  unfold joinEntry
  dsimp only
  split
  · exact Compiled.readable_reject _
  · next s =>
    have hs : (d.tableEntry s).Readable := readable_tableEntry hd
      (fun name q h => hjoined name q (congrArg some h))
      fun s' hs' => htexts s' (List.mem_cons_of_mem _ hs')
    split
    · exact Compiled.readable_reject _
    · -- the table and the condition are compiled, or nothing is
      cases htable : d.tableEntry s with
      | error r => rintro _ ⟨⟩
      | ok f =>
        cases hcondition : keywordClause " ON " on with
        | error r => rintro _ ⟨⟩
        | ok g =>
          have hkeyword : Delimits " ON " := ⟨Clean.neutral (by decide), _, _, rfl, rfl⟩
          have hg : g.Readable := readable_keywordClause hkeyword.neutral hon g hcondition
          have hstart : g.StartsApart := startsApart_keywordClause hkeyword.apart hcondition
          have hf : f.Readable := hs f htable
          exact Compiled.readable_ok ((Fragment.Readable.text_append
            (hwords.neutral.append neutral_blank) hf).append hg hstart)

omit hd in
theorem readable_unionEntry {u : UnionMember Compiled}
    (hu : ∀ q, u.source = .query q → q.Readable) (htexts : ∀ s ∈ u.texts, Clean s) :
    (unionEntry u).Readable := by
  obtain ⟨source, all⟩ := u
  have hclosing : Delimits " )" := delimits_blank.append neutral_closing
  -- a query and a raw text are put between the same words
  have hbody : ∀ f : Fragment, f.Readable →
      (Fragment.text (unionHead all) ++ f ++ Fragment.text " )").Readable :=
    fun f hf => hf.enclosed (neutral_unionHead all) hclosing
  cases source with
  | query q => exact (hu q rfl).map hbody
  | raw sql =>
    have hsql : Clean sql := htexts sql (List.mem_singleton_self _)
    exact (Compiled.readable_ok (Fragment.readable_text hsql.neutral)).map hbody

omit hd in
theorem readable_unionClause {unions : List (UnionMember Compiled)}
    (hunions : ∀ u ∈ unions, ∀ q, u.source = .query q → q.Readable)
    (htexts : ∀ u ∈ unions, ∀ s ∈ u.texts, Clean s) : (unionClause unions).Readable := by
  refine Compiled.readable_sequence_map (fun c hc => ?_) fun fs hfs => ?_
  · obtain ⟨u, hu, rfl⟩ := List.mem_map.mp hc
    exact readable_unionEntry (hunions u hu) (htexts u hu)
  · exact Fragment.readable_join delimits_blank hfs

end Dialect

namespace Target

/-- What a target needs for its statements to be readable. -/
structure Reads (t : Target) : Prop where
  quotes : t.dialect.Quotes
  neutral : Neutral t.separator
  apart : Apart t.separator

variable {t : Target} (ht : t.Reads)

include ht

theorem Reads.delimits : Delimits t.separator := ⟨ht.neutral, ht.apart⟩

theorem readable_joinClause {joins : List (Join Compiled Compiled)}
    (hjoined : ∀ j ∈ joins, ∀ name q, j.table = some (.subquery name q) → q.Readable)
    (hon : ∀ j ∈ joins, ∀ c, j.on = some c → c.Readable)
    (htexts : ∀ j ∈ joins, ∀ s ∈ j.texts, Clean s) : (t.joinClause joins).Readable := by
  refine Compiled.readable_sequence_map (fun c hc => ?_) fun fs hfs => ?_
  · obtain ⟨j, hj, rfl⟩ := List.mem_map.mp hc
    exact Dialect.readable_joinEntry ht.quotes (hjoined j hj) (hon j hj) (htexts j hj)
  · exact Fragment.readable_join ht.delimits hfs

theorem readable_followedBy {f : Fragment} (hf : f.Readable) {clause : String}
    (hclause : Neutral clause) : (t.followedBy f clause).Readable := by
  unfold followedBy
  split
  · exact hf
  · exact hf.append_text (ht.delimits.append hclause)

/-- A layer of a query with clean texts is readable if what stands inside is. -/
theorem readable_queryNode {n : QueryNode Compiled Compiled}
    (hn : n.Each Compiled.Readable Compiled.Readable) (htexts : ∀ s ∈ n.ownTexts, Clean s) :
    (t.queryNode n).Readable := by
  simp only [QueryNode.ownTexts, List.mem_append, or_imp, forall_and] at htexts
  obtain ⟨⟨⟨⟨⟨⟨hselected, hoption⟩, htables⟩, hjoins⟩, hgroups⟩, hordering⟩, hunions⟩ := htexts
  have hselect : (t.dialect.selectClause n.select n.distinct n.selectOption).Readable :=
    Dialect.readable_selectClause ht.quotes hn.selected
      (fun c hc s hs => hselected s (List.mem_flatMap.mpr ⟨c, hc, hs⟩)) n.distinct
      fun s hs => hoption s (Option.mem_toList.mpr hs)
  have hfrom : (t.dialect.fromClause n.tables).Readable :=
    Dialect.readable_fromClause ht.quotes hn.tables
      fun s hs s' hs' => htables s' (List.mem_flatMap.mpr ⟨s, hs, hs'⟩)
  have hjoin : (t.joinClause n.joins).Readable :=
    readable_joinClause ht hn.joined hn.on
      fun j hj s hs => hjoins s (List.mem_flatMap.mpr ⟨j, hj, hs⟩)
  have hwords : Clean "WHERE " ∧ Clean "HAVING " := by decide
  have hwhere : (Dialect.whereClause n.filter).Readable :=
    Dialect.readable_keywordClause hwords.1.neutral hn.filter
  have hgroup : Compiled.Readable (.ok (Fragment.text (t.dialect.groupByClause n.groupBy))) :=
    Compiled.readable_ok (Fragment.readable_text (ht.quotes.neutral_groupByClause hgroups))
  have hhaving : (Dialect.havingClause n.having).Readable :=
    Dialect.readable_keywordClause hwords.2.neutral hn.having
  have hunion : (Dialect.unionClause n.unions).Readable :=
    Dialect.readable_unionClause hn.united
      fun u hu s hs => hunions s (List.mem_flatMap.mpr ⟨u, hu, hs⟩)
  have horder : Neutral (t.dialect.orderByClause n.orderBy) :=
    ht.quotes.neutral_orderByClause fun e he => hordering e.1 (List.mem_map_of_mem he)
  have hlimit : Neutral (Dialect.limitClause n.limit n.offset) :=
    Dialect.neutral_limitClause n.limit n.offset
  unfold queryNode
  refine Compiled.readable_sequence_map (fun c hc => ?_) fun fs hfs => ?_
  · simp only [List.mem_cons, List.not_mem_nil, or_false] at hc
    rcases hc with rfl | rfl | rfl | rfl | rfl | rfl | rfl
    exacts [hselect, hfrom, hjoin, hwhere, hgroup, hhaving, hunion]
  · split
    · next select tables joins rows groups having union =>
      have hbody : (Fragment.join t.separator
          ([select, tables, joins, rows, groups, having].filter (!·.isEmpty))).Readable :=
        Fragment.readable_join ht.delimits fun f hf =>
          hfs f (List.mem_append_left [union] (List.mem_of_mem_filter hf))
      -- the clauses up to the paging, without the union
      have hpaged := readable_followedBy ht (readable_followedBy ht hbody horder) hlimit
      have hmembers : union.Readable := hfs union (by simp)
      dsimp only
      split
      · exact hpaged
      · -- the union stands behind the separator, not behind a slot
        rw [List.append_assoc, List.append_assoc]
        have hclosing : Delimits (")" ++ t.separator) := delimits_closing.append ht.neutral
        refine Fragment.Readable.text_append neutral_opening ?_
        exact hpaged.append (Fragment.Readable.text_append hclosing.neutral hmembers)
          (Fragment.startsApart_text_append hclosing.apart union)
    · exact trivial

/-- **Clean trees are readable.** What a condition or a query compiles to is readable if
all its texts are clean, at any depth. -/
theorem readable_of_clean :
    (∀ c : Condition, (∀ s ∈ c.texts, Clean s) → (t.condition c).Readable) ∧
      ∀ q : Query, (∀ s ∈ q.texts, Clean s) → (t.query q).Readable := by
  refine layer_induction ?_ ?_
  · intro n ihc ihq htexts
    rw [condition, Condition.fold_mk]
    refine Dialect.readable_conditionNode ht.quotes (ConditionNode.each_map ?_ ?_) ?_
    · exact fun c hc => ihc c hc fun s hs =>
        htexts s (Condition.mem_texts_mk.mpr (Or.inr ⟨.inl c, hc, hs⟩))
    · exact fun q hq => ihq q hq fun s hs =>
        htexts s (Condition.mem_texts_mk.mpr (Or.inr ⟨.inr q, hq, hs⟩))
    · rw [ConditionNode.ownTexts_map]
      exact fun s hs => htexts s (Condition.mem_texts_mk.mpr (Or.inl hs))
  · intro n ihc ihq htexts
    rw [query, Query.fold_mk]
    refine readable_queryNode ht (QueryNode.each_map ?_ ?_) ?_
    · exact fun c hc => ihc c hc fun s hs =>
        htexts s (Query.mem_texts_mk.mpr (Or.inr ⟨.inl c, hc, hs⟩))
    · exact fun q hq => ihq q hq fun s hs =>
        htexts s (Query.mem_texts_mk.mpr (Or.inr ⟨.inr q, hq, hs⟩))
    · rw [QueryNode.ownTexts_map]
      exact fun s hs => htexts s (Query.mem_texts_mk.mpr (Or.inl hs))

end Target

end SqlCompose

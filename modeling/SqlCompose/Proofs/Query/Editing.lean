import SqlCompose.Proofs.Mentions
import SqlCompose.Query.Edit
/-!
# The ordering of an edited query

However a query is put together, its ordering has every column once: in the order in which the
columns were mentioned first since the ordering was set the last time, and each in the direction
it was mentioned with last (`Query.orderBy_edited`).

**One mention** is added to an ordering that is settled already by settling it together with the
mentions before it (`Ordering.set_settle`), so a merge settles all that was mentioned
(`Ordering.merge_settle`). **One edit** merges its mentions into the ordering or into none at all
(`Query.orderBy_apply`), and so does a run of edits (`Query.orderBy_applyAll`), where what counts
is the part from the last edit that sets the ordering.
-/

namespace SqlCompose

namespace Ordering

variable {column : String} {order : SortOrder} {os : List (String × SortOrder)}

/-! ### Merging -/

/-- A new column comes last. -/
theorem set_of_notMem (h : column ∉ os.map (·.1)) :
    set column order os = os ++ [(column, order)] := by
  induction os with
  | nil => rfl
  | cons e os ih =>
    rw [List.map_cons, List.mem_cons, not_or] at h
    rw [set, if_neg (Ne.symm h.1), ih h.2, List.cons_append]

/-- A column that is there takes the new direction, and the others keep theirs. -/
theorem set_of_mem (hnodup : (os.map (·.1)).Nodup) (h : column ∈ os.map (·.1)) :
    set column order os = os.map fun e => if e.1 = column then (column, order) else e := by
  induction os with
  | nil => exact absurd h List.not_mem_nil
  | cons e os ih =>
    obtain ⟨he, hnodup⟩ := List.nodup_cons.mp hnodup
    rw [set, List.map_cons]
    by_cases hcolumn : e.1 = column
    · -- no entry behind this one has its column
      have hrest : os.map (fun e => if e.1 = column then (column, order) else e) = os := by
        refine (List.map_congr_left fun e' he' => if_neg ?_).trans (List.map_id os)
        rw [← hcolumn]
        exact ne_of_mem_of_not_mem (List.mem_map_of_mem he') he
      rw [if_pos hcolumn, if_pos hcolumn, hrest, hcolumn]
    · have hmem : column ∈ os.map (·.1) :=
        (List.mem_cons.mp h).resolve_left fun heq => hcolumn heq.symm
      rw [if_neg hcolumn, if_neg hcolumn, ih hnodup hmem]

/-- **One more mention** is settled together with those before it. -/
theorem set_settle (mentions : List (String × SortOrder)) (e : String × SortOrder) :
    set e.1 e.2 (settle mentions) = settle (mentions ++ [e]) := by
  have hmem : e.1 ∈ (settle mentions).map (·.1) ↔ e.1 ∈ mentions.map (·.1) := by
    rw [names_settle, List.mem_eraseDups]
  by_cases h : e.1 ∈ mentions.map (·.1)
  · rw [set_of_mem (nodup_settle mentions) (hmem.mpr h), settle_concat_of_mem h]
  · rw [set_of_notMem (mt hmem.mp h), settle_concat_of_notMem h]

/-- **Merging** settles all that was mentioned. -/
theorem merge_settle (mentions more : List (String × SortOrder)) :
    merge (settle mentions) more = settle (mentions ++ more) := by
  induction more generalizing mentions with
  | nil => rw [merge, List.foldl_nil, List.append_nil]
  | cons e more ih =>
    have hcons : merge (settle mentions) (e :: more) =
      merge (set e.1 e.2 (settle mentions)) more := rfl
    rw [hcons, set_settle, ih, List.append_assoc, List.singleton_append]

theorem merge_append (os more more' : List (String × SortOrder)) :
    merge os (more ++ more') = merge (merge os more) more' := by
  rw [merge, List.foldl_append]
  rfl

end Ordering

/-! ### Edits -/

/-- What an ordering is given as: a text, or columns with their directions. -/
inductive OrderingSource
  | text (s : String)
  | columns (es : List (String × SortOrder))

/-- The columns and directions of an ordering, with repetitions. -/
def OrderingSource.entries : OrderingSource → List (String × SortOrder)
  | text s => Ordering.parse s
  | columns es => es

/-- One step in putting a query together. -/
inductive Edit
  | select (columns : List (ColumnSpec Query))
  | selectWithOption (columns : List (ColumnSpec Query)) (option : String)
  | addSelect (columns : List (ColumnSpec Query))
  | distinct (on : Bool)
  | tables (ts : List (TableSpec Query))
  | join (joinType : String) (ts : List (TableSpec Query)) (on : Option Condition)
  | innerJoin (ts : List (TableSpec Query)) (on : Condition)
  | leftJoin (ts : List (TableSpec Query)) (on : Condition)
  | rightJoin (ts : List (TableSpec Query)) (on : Condition)
  | filter (c : Condition)
  | andFilter (c : Condition)
  | orFilter (c : Condition)
  | having (c : Condition)
  | andHaving (c : Condition)
  | orHaving (c : Condition)
  | groupBy (columns : List String)
  | addGroupBy (columns : List String)
  | orderBy (source : OrderingSource)
  | addOrderBy (source : OrderingSource)
  | limit (n : Option Int)
  | offset (n : Option Int)
  | unionWith (source : UnionSource Query) (all : Bool)
  | params (p : Params)
  | addParams (p : Params)
  | addParam (name : String) (value : Value)

namespace Edit

/-- The query after a step. -/
def apply (q : Query) : Edit → Query
  | select columns => q.select columns
  | selectWithOption columns option => q.selectWithOption columns option
  | addSelect columns => q.addSelect columns
  | distinct on => q.distinct on
  | tables ts => q.from_ ts
  | join joinType ts on => q.join joinType ts on
  | innerJoin ts on => q.innerJoin ts on
  | leftJoin ts on => q.leftJoin ts on
  | rightJoin ts on => q.rightJoin ts on
  | filter c => q.filter c
  | andFilter c => q.andFilter c
  | orFilter c => q.orFilter c
  | having c => q.having c
  | andHaving c => q.andHaving c
  | orHaving c => q.orHaving c
  | groupBy columns => q.groupBy columns
  | addGroupBy columns => q.addGroupBy columns
  | orderBy source => q.orderBy source.entries
  | addOrderBy source => q.addOrderBy source.entries
  | limit n => q.limit n
  | offset n => q.offset n
  | unionWith source all => q.unionWith source all
  | params p => q.params p
  | addParams p => q.addParams p
  | addParam name value => q.addParam name value

/-- Whether a step sets the ordering. -/
def setsOrdering : Edit → Bool
  | orderBy _ => true
  | _ => false

/-- The columns and directions that a step mentions for the ordering. -/
def mentions : Edit → List (String × SortOrder)
  | orderBy source => source.entries
  | addOrderBy source => source.entries
  | _ => []

/-- The steps from the last one that sets the ordering; all of them, if there is none. -/
def sinceSet : List Edit → List Edit
  | [] => []
  | e :: es => if es.any setsOrdering then sinceSet es else e :: es

theorem sinceSet_of_none {es : List Edit} (h : es.any setsOrdering = false) : sinceSet es = es := by
  cases es with
  | nil => rfl
  | cons e es =>
    rw [List.any_cons, Bool.or_eq_false_iff] at h
    rw [sinceSet, h.2]
    rfl

end Edit

namespace Query

/-- The query that the steps make of the query for all columns of nothing. -/
def edited (es : List Edit) : Query := es.foldl Edit.apply empty

/-- **One step** merges what it mentions into the ordering, or into none if it sets it. -/
theorem orderBy_apply (q : Query) (e : Edit) :
    (e.apply q).node.orderBy =
      Ordering.merge (if e.setsOrdering then [] else q.node.orderBy) e.mentions := by
  cases e <;> rfl

/-- **Steps one after the other** merge what is mentioned since the ordering was set. -/
theorem orderBy_applyAll (q : Query) (es : List Edit) :
    (es.foldl Edit.apply q).node.orderBy =
      Ordering.merge (if es.any Edit.setsOrdering then [] else q.node.orderBy)
        ((Edit.sinceSet es).flatMap Edit.mentions) := by
  induction es generalizing q with
  | nil => rfl
  | cons e es ih =>
    rw [List.foldl_cons, ih, List.any_cons, Edit.sinceSet]
    by_cases hlater : es.any Edit.setsOrdering = true
    · -- what was there before the later step does not matter
      rw [if_pos hlater, if_pos hlater, hlater, Bool.or_true, if_pos rfl]
    · have hnone := Bool.eq_false_iff.mpr hlater
      rw [if_neg hlater, if_neg hlater, hnone, Bool.or_false, Edit.sinceSet_of_none hnone,
        orderBy_apply, List.flatMap_cons, Ordering.merge_append]

/-- **The ordering of an edited query** has every column once, and is what was mentioned since it
was set the last time: the columns in the order of their first mentions, each with the direction
of its last one. -/
theorem orderBy_edited (es : List Edit) :
    ((edited es).node.orderBy.map (·.1)).Nodup ∧
      (edited es).node.orderBy = settle ((Edit.sinceSet es).flatMap Edit.mentions) := by
  have hsettled : (edited es).node.orderBy =
      settle ((Edit.sinceSet es).flatMap Edit.mentions) := by
    have hempty : (if es.any Edit.setsOrdering then [] else empty.node.orderBy) = settle [] := by
      split <;> rfl
    rw [edited, orderBy_applyAll, hempty, Ordering.merge_settle, List.nil_append]
  rw [hsettled]
  exact ⟨nodup_settle _, rfl⟩

/-- A column keeps its place when its direction changes, also within one text, and what was
mentioned before the ordering was set is forgotten. -/
example : (edited [.addOrderBy (.text "x desc"), .orderBy (.text "a, b desc, a desc"), .limit none,
    .addOrderBy (.columns [("c", .asc), ("b", .asc)])]).node.orderBy =
      [("a", .desc), ("b", .asc), ("c", .asc)] := by
  decide

end Query

end SqlCompose

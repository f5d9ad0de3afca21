import Mathlib.Data.List.Basic
import SqlCompose.Proofs.Query.Nesting
/-!
# The queries inside a query

`Query.inside` lists a query and the queries inside it at any depth: the query itself
first, and then what stands in its select list, among its tables and joined tables, in
its conditions and in its union. Nothing is forgotten and nothing is added
(`Query.mem_inside_iff`), and the parameters that a query brings along are those of the
queries in the list, in this order (`Query.paramsInside_eq`).
-/

namespace SqlCompose

/-! ### What a layer gathers -/

section Gather

variable {γ δ : Type}

/-- What stands in the lists that some of the items have. -/
theorem mem_flatten_filterMap_map {α β : Type} {m : α → β} {h : β → Option (List γ)}
    {xs : List α} {x : γ} :
    x ∈ ((xs.map m).filterMap h).flatten ↔ ∃ a ∈ xs, ∃ l, h (m a) = some l ∧ x ∈ l := by
  constructor
  · intro hx
    obtain ⟨l, hl, hx⟩ := List.mem_flatten.mp hx
    obtain ⟨b, hb, hbl⟩ := List.mem_filterMap.mp hl
    obtain ⟨a, ha, rfl⟩ := List.mem_map.mp hb
    exact ⟨a, ha, l, hbl, hx⟩
  · rintro ⟨a, ha, l, hal, hx⟩
    exact List.mem_flatten.mpr
      ⟨l, List.mem_filterMap.mpr ⟨m a, List.mem_map_of_mem ha, hal⟩, hx⟩

/-- What a layer of a condition gathers comes from what it contains. -/
theorem ConditionNode.mem_gather_map {f : Condition → List γ} {g : Query → List γ}
    {n : ConditionNode Condition Query} {x : γ} :
    x ∈ (n.map f g).gather ↔ ∃ y, Contains (.inl ⟨n⟩) y ∧ x ∈ Sum.elim f g y := by
  constructor
  · intro h
    -- what is gathered tells the place, and `Contains` has a constructor for it
    cases n with
    | raw sql => exact absurd h List.not_mem_nil
    | hash pairs =>
      obtain ⟨⟨column, v⟩, hp, l, hl, hx⟩ := mem_flatten_filterMap_map.mp h
      cases v with
      | query r =>
        cases hl
        exact ⟨.inr r, .paired hp, hx⟩
      | value | list => cases hl
    | operator op operands =>
      obtain ⟨o', ho', hx⟩ := List.mem_flatMap.mp h
      obtain ⟨o, ho, rfl⟩ := List.mem_map.mp ho'
      cases o with
      | condition c => exact ⟨.inl c, .condition ho, hx⟩
      | query r => exact ⟨.inr r, .query ho, hx⟩
      | _ => exact absurd hx List.not_mem_nil
  · rintro ⟨y, hy, hx⟩
    -- a place of the layer is gathered, whichever it is
    cases hy with
    | paired h => exact mem_flatten_filterMap_map.mpr ⟨_, h, _, rfl, hx⟩
    | condition h => exact List.mem_flatMap.mpr ⟨_, List.mem_map_of_mem h, hx⟩
    | query h => exact List.mem_flatMap.mpr ⟨_, List.mem_map_of_mem h, hx⟩

/-- The list of an entry in place of its query. -/
theorem TableSpec.query?_map_eq_some {g : Query → List γ} {s : TableSpec Query} {l : List γ} :
    (s.map g).query? = some l ↔ ∃ name r, s = .subquery name r ∧ g r = l := by
  constructor
  · intro h
    cases s with
    | subquery name r =>
      cases h
      exact ⟨name, r, rfl, rfl⟩
    | bare | aliased => cases h
  · rintro ⟨name, r, rfl, rfl⟩
    rfl

/-- What a layer of a query gathers comes from what it contains. -/
theorem QueryNode.mem_gather_map {f : Condition → List γ} {g : Query → List γ}
    {n : QueryNode Condition Query} {x : γ} :
    x ∈ (n.map f g).gather ↔ ∃ y, Contains (.inr ⟨n⟩) y ∧ x ∈ Sum.elim f g y := by
  simp only [QueryNode.gather, List.mem_append, List.filterMap_filterMap]
  constructor
  · rintro ((((((h | h) | h) | h) | h) | h) | h)
    · -- the select list
      obtain ⟨c, hc, l, hl, hx⟩ := mem_flatten_filterMap_map.mp h
      cases c with
      | subquery name r =>
        cases hl
        exact ⟨.inr r, .selected hc, hx⟩
      | bare | aliased => cases hl
    · -- the tables
      obtain ⟨s, hs, l, hl, hx⟩ := mem_flatten_filterMap_map.mp h
      obtain ⟨name, r, rfl, rfl⟩ := TableSpec.query?_map_eq_some.mp hl
      exact ⟨.inr r, .table hs, hx⟩
    · -- the joined tables
      obtain ⟨j, hj, l, hl, hx⟩ := mem_flatten_filterMap_map.mp h
      obtain ⟨s', hs', hl⟩ := Option.bind_eq_some_iff.mp hl
      obtain ⟨s, hs, rfl⟩ := Option.map_eq_some_iff.mp hs'
      obtain ⟨name, r, rfl, rfl⟩ := TableSpec.query?_map_eq_some.mp hl
      exact ⟨.inr r, .joined hj hs, hx⟩
    · -- the conditions on joined tables
      obtain ⟨j, hj, l, hl, hx⟩ := mem_flatten_filterMap_map.mp h
      obtain ⟨c, hc, rfl⟩ := Option.map_eq_some_iff.mp hl
      exact ⟨.inl c, .on hj hc, hx⟩
    · -- the restriction on rows
      cases hc : n.filter with
      | none => simp [QueryNode.map, hc] at h
      | some c => exact ⟨.inl c, .filter hc, by simpa [QueryNode.map, hc] using h⟩
    · -- the restriction on groups
      cases hc : n.having with
      | none => simp [QueryNode.map, hc] at h
      | some c => exact ⟨.inl c, .having hc, by simpa [QueryNode.map, hc] using h⟩
    · -- the union
      obtain ⟨⟨source, all⟩, hu, l, hl, hx⟩ := mem_flatten_filterMap_map.mp h
      cases source with
      | query r =>
        cases hl
        exact ⟨.inr r, .united hu rfl, hx⟩
      | raw => cases hl
  · rintro ⟨y, hy, hx⟩
    cases hy with
    | selected h =>
      iterate 6 left
      exact mem_flatten_filterMap_map.mpr ⟨_, h, _, rfl, hx⟩
    | table h =>
      iterate 5 left
      right
      exact mem_flatten_filterMap_map.mpr ⟨_, h, _, rfl, hx⟩
    | joined hj h =>
      iterate 4 left
      right
      refine mem_flatten_filterMap_map.mpr ⟨_, hj, _, ?_, hx⟩
      rw [Join.map, h]
      rfl
    | on hj h =>
      iterate 3 left
      right
      refine mem_flatten_filterMap_map.mpr ⟨_, hj, _, ?_, hx⟩
      rw [Join.map, h]
      rfl
    | filter h =>
      iterate 2 left
      right
      simpa [QueryNode.map, h] using hx
    | having h =>
      left
      right
      simpa [QueryNode.map, h] using hx
    | united hu h =>
      right
      refine mem_flatten_filterMap_map.mpr ⟨_, hu, _, ?_, hx⟩
      rw [UnionMember.map, h]
      rfl

/-- Gathering commutes with a function on what is gathered. -/
theorem ConditionNode.gather_map_map (h : γ → δ) (n : ConditionNode (List γ) (List γ)) :
    (n.map (List.map h) (List.map h)).gather = n.gather.map h := by
  cases n with
  | raw => rfl
  | hash pairs =>
    have hvalue : ∀ v : HashValue (List γ),
        (v.map (List.map h)).query? = v.query?.map (List.map h) := by
      intro v; cases v <;> rfl
    simp only [ConditionNode.map, ConditionNode.gather, List.filterMap_map, Function.comp_def,
      hvalue, List.map_flatten, List.map_filterMap]
  | operator op operands =>
    simp only [ConditionNode.map, ConditionNode.gather, List.flatMap_map, List.map_flatMap]
    refine List.flatMap_congr fun o _ => ?_
    cases o <;> rfl

/-- Gathering commutes with a function on what is gathered. -/
theorem QueryNode.gather_map_map (h : γ → δ) (n : QueryNode (List γ) (List γ)) :
    (n.map (List.map h) (List.map h)).gather = n.gather.map h := by
  have hcolumn : ∀ c : ColumnSpec (List γ),
      (c.map (List.map h)).query? = c.query?.map (List.map h) := by
    intro c; cases c <;> rfl
  have htable : ∀ s : TableSpec (List γ),
      (s.map (List.map h)).query? = s.query?.map (List.map h) := by
    intro s; cases s <;> rfl
  have hunion : ∀ u : UnionMember (List γ),
      (u.map (List.map h)).query? = u.query?.map (List.map h) := by
    rintro ⟨source, all⟩; cases source <;> rfl
  have hoption : ∀ o : Option (List γ), (o.map (List.map h)).getD [] = (o.getD []).map h := by
    intro o; cases o <;> rfl
  simp only [QueryNode.gather, QueryNode.map, List.filterMap_map, Function.comp_def, Join.map,
    hcolumn, htable, hunion, hoption, List.map_append, List.map_flatten, List.map_filterMap,
    List.filterMap_filterMap, Option.map_bind, Option.bind_map]

end Gather

/-! ### The list of all queries -/

/-- A condition rebuilt from its layer, and the queries inside it. -/
def insideOfCondition (n : ConditionNode (Condition × List Query) (Query × List Query)) :
    Condition × List Query :=
  (⟨n.map Prod.fst Prod.fst⟩, (n.map Prod.snd Prod.snd).gather)

/-- A query rebuilt from its layer, and this query with the queries inside it. -/
def insideOfQuery (n : QueryNode (Condition × List Query) (Query × List Query)) :
    Query × List Query :=
  (⟨n.map Prod.fst Prod.fst⟩, ⟨n.map Prod.fst Prod.fst⟩ :: (n.map Prod.snd Prod.snd).gather)

/-- The queries inside a condition, at any depth. -/
def Condition.inside (c : Condition) : List Query :=
  (Condition.fold insideOfCondition insideOfQuery c).2

/-- A query and the queries inside it, at any depth. -/
def Query.inside (q : Query) : List Query :=
  (Query.fold insideOfCondition insideOfQuery q).2

theorem ConditionNode.map_id {κ θ : Type} (n : ConditionNode κ θ) : n.map id id = n := by
  cases n with
  | raw => rfl
  | hash pairs =>
    refine congrArg ConditionNode.hash ((List.map_congr_left fun p _ => ?_).trans (List.map_id _))
    obtain ⟨column, v⟩ := p
    cases v <;> rfl
  | operator op operands =>
    refine congrArg (ConditionNode.operator op)
      ((List.map_congr_left fun o _ => ?_).trans (List.map_id _))
    cases o <;> rfl

theorem QueryNode.map_id {κ θ : Type} (n : QueryNode κ θ) : n.map id id = n := by
  have hcolumn : ∀ c : ColumnSpec θ, c.map id = c := by
    intro c; cases c <;> rfl
  have htable : ∀ s : TableSpec θ, s.map id = s := by
    intro s; cases s <;> rfl
  have hjoin : ∀ j : Join κ θ, j.map id id = j := by
    rintro ⟨joinType, table, on⟩
    simp [Join.map, htable]
  have hunion : ∀ u : UnionMember θ, u.map id = u := by
    rintro ⟨source, all⟩; cases source <;> rfl
  simp [QueryNode.map, hcolumn, htable, hjoin, hunion]

/-- A layer whose contents stay the same stays the same. -/
theorem ConditionNode.map_eq_self {n : ConditionNode Condition Query} {f : Condition → Condition}
    {g : Query → Query} (hf : ∀ c, Contains (.inl ⟨n⟩) (.inl c) → f c = c)
    (hg : ∀ q, Contains (.inl ⟨n⟩) (.inr q) → g q = q) : n.map f g = n :=
  (ConditionNode.map_congr hf hg).trans n.map_id

/-- A layer whose contents stay the same stays the same. -/
theorem QueryNode.map_eq_self {n : QueryNode Condition Query} {f : Condition → Condition}
    {g : Query → Query} (hf : ∀ c, Contains (.inr ⟨n⟩) (.inl c) → f c = c)
    (hg : ∀ q, Contains (.inr ⟨n⟩) (.inr q) → g q = q) : n.map f g = n :=
  (QueryNode.map_congr hf hg).trans n.map_id

/-- Rebuilding a tree layer by layer gives the tree. -/
theorem fst_fold_inside :
    (∀ c, (Condition.fold insideOfCondition insideOfQuery c).1 = c) ∧
      ∀ q, (Query.fold insideOfCondition insideOfQuery q).1 = q := by
  refine layer_induction ?_ ?_
  · intro n ihc ihq
    rw [Condition.fold_mk, insideOfCondition, ConditionNode.map_map]
    exact congrArg Condition.mk (ConditionNode.map_eq_self ihc ihq)
  · intro n ihc ihq
    rw [Query.fold_mk, insideOfQuery, QueryNode.map_map]
    exact congrArg Query.mk (QueryNode.map_eq_self ihc ihq)

/-- The queries inside a condition are those inside what it contains. -/
theorem Condition.inside_mk (n : ConditionNode Condition Query) :
    Condition.inside ⟨n⟩ = (n.map Condition.inside Query.inside).gather := by
  rw [Condition.inside, Condition.fold_mk]
  exact congrArg ConditionNode.gather (ConditionNode.map_map _ _ _ _ n)

/-- A query comes in front of the queries inside what it contains. -/
theorem Query.inside_mk (n : QueryNode Condition Query) :
    Query.inside ⟨n⟩ = ⟨n⟩ :: (n.map Condition.inside Query.inside).gather := by
  rw [Query.inside, Query.fold_mk, insideOfQuery, QueryNode.map_map, QueryNode.map_map]
  -- the rebuilt query at the head of the list is the query itself
  refine congrArg₂ List.cons (congrArg Query.mk ?_) rfl
  exact QueryNode.map_eq_self (fun c _ => fst_fold_inside.1 c) fun q _ => fst_fold_inside.2 q

/-- **The list is complete**, and it lists nothing else. -/
theorem Query.mem_inside_iff (q r : Query) : r ∈ q.inside ↔ q.Nests r := by
  have all : (∀ c : Condition, r ∈ c.inside ↔ Relation.ReflTransGen Contains (.inl c) (.inr r)) ∧
      ∀ q : Query, r ∈ q.inside ↔ Relation.ReflTransGen Contains (.inr q) (.inr r) := by
    refine layer_induction ?_ ?_
    · intro n ihc ihq
      -- a descent from a condition has a first step, since its end is a query
      rw [Condition.inside_mk, ConditionNode.mem_gather_map,
        Relation.ReflTransGen.cases_head_iff]
      simp only [reduceCtorEq, false_or]
      refine exists_congr fun y => and_congr_right fun hy => ?_
      cases y with
      | inl c => exact ihc c hy
      | inr q => exact ihq q hy
    · intro n ihc ihq
      -- a descent from a query has a first step or ends at once
      rw [Query.inside_mk, List.mem_cons, QueryNode.mem_gather_map,
        Relation.ReflTransGen.cases_head_iff, Sum.inr.injEq, eq_comm]
      refine or_congr_right (exists_congr fun y => and_congr_right fun hy => ?_)
      cases y with
      | inl c => exact ihc c hy
      | inr q => exact ihq q hy
  exact all.2 q

/-- The parameters that a query brings along are those of the queries in the list. -/
theorem Query.paramsInside_eq (q : Query) : q.paramsInside = q.inside.map (·.node.params) := by
  -- both sides are folds, and taking the parameters takes the one to the other
  refine ((fold_fusion (f := insideOfCondition) (g := insideOfQuery)
    (h := fun p => p.2.map (·.node.params)) (k := fun p => p.2.map (·.node.params))
    (fun n => ?_) fun n => ?_).2 q).symm
  · rw [insideOfCondition, ← ConditionNode.gather_map_map, ConditionNode.map_map]
    rfl
  · rw [insideOfQuery, List.map_cons, ← QueryNode.gather_map_map, QueryNode.map_map]
    rfl

end SqlCompose

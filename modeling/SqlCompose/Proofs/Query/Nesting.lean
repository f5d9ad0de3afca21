import Mathlib.Logic.Relation
import SqlCompose.Query.Basic
/-!
# What stands inside a query

A query holds conditions and queries at several places, and so does a condition.
`Contains` lists these places one by one. What a layer contains is smaller than the layer
(`Contains.sizeOf_lt`), so the relation is well founded (`wellFounded_contains`), which
gives the induction over whole trees of conditions and queries (`layer_induction`): a fact
holds of all of them if it passes from what a layer contains to the layer.

Replacing what stands at the open places of a layer touches exactly what the layer
contains (`ConditionNode.map_congr`, `QueryNode.map_congr`), so a fold depends on
nothing else. `fold_fusion` is what follows for two folds whose layers fit together.

`Query.Nests` is containment at any depth.
-/

namespace SqlCompose

/-- **Direct containment.** The first condition or query has the second at one of its
places. -/
inductive Contains : Condition ⊕ Query → Condition ⊕ Query → Prop
  | selected {n : QueryNode Condition Query} {name : String} {r : Query}
      (h : .subquery name r ∈ n.select) : Contains (.inr ⟨n⟩) (.inr r)
  | table {n : QueryNode Condition Query} {name : String} {r : Query}
      (h : .subquery name r ∈ n.tables) : Contains (.inr ⟨n⟩) (.inr r)
  | joined {n : QueryNode Condition Query} {j : Join Condition Query} {name : String} {r : Query}
      (hj : j ∈ n.joins) (h : j.table = some (.subquery name r)) : Contains (.inr ⟨n⟩) (.inr r)
  | on {n : QueryNode Condition Query} {j : Join Condition Query} {c : Condition}
      (hj : j ∈ n.joins) (h : j.on = some c) : Contains (.inr ⟨n⟩) (.inl c)
  | filter {n : QueryNode Condition Query} {c : Condition}
      (h : n.filter = some c) : Contains (.inr ⟨n⟩) (.inl c)
  | having {n : QueryNode Condition Query} {c : Condition}
      (h : n.having = some c) : Contains (.inr ⟨n⟩) (.inl c)
  | united {n : QueryNode Condition Query} {u : UnionMember Query} {r : Query}
      (hu : u ∈ n.unions) (h : u.source = .query r) : Contains (.inr ⟨n⟩) (.inr r)
  | paired {pairs : List (String × HashValue Query)} {column : String} {r : Query}
      (h : (column, .query r) ∈ pairs) : Contains (.inl ⟨.hash pairs⟩) (.inr r)
  | condition {op : Operator} {operands : List (Operand Condition Query)} {c : Condition}
      (h : .condition c ∈ operands) : Contains (.inl ⟨.operator op operands⟩) (.inl c)
  | query {op : Operator} {operands : List (Operand Condition Query)} {r : Query}
      (h : .query r ∈ operands) : Contains (.inl ⟨.operator op operands⟩) (.inr r)

/-- **Containment at any depth.** The second query stands somewhere inside the first, or
is the first. -/
def Query.Nests (q r : Query) : Prop :=
  Relation.ReflTransGen Contains (.inr q) (.inr r)

/-! ### What stands inside is smaller -/

section Size

variable {κ θ : Type} [SizeOf κ] [SizeOf θ]

/-- The clauses that conditions and queries stand in are, taken together, smaller than the layer. -/
theorem QueryNode.sizeOf_clauses (n : QueryNode κ θ) :
    sizeOf n.select + sizeOf n.tables + sizeOf n.joins + sizeOf n.filter + sizeOf n.having +
      sizeOf n.unions < sizeOf n := by
  obtain ⟨⟩ := n
  simp only [QueryNode.mk.sizeOf_spec]
  omega

/-- The table and the condition of a join are, taken together, smaller than the join. -/
theorem Join.sizeOf_parts (j : Join κ θ) : sizeOf j.table + sizeOf j.on < sizeOf j := by
  obtain ⟨⟩ := j
  simp only [Join.mk.sizeOf_spec]
  omega

/-- The source of a member of a union is smaller than the member. -/
theorem UnionMember.sizeOf_source (u : UnionMember θ) : sizeOf u.source < sizeOf u := by
  obtain ⟨⟩ := u
  simp only [UnionMember.mk.sizeOf_spec]
  omega

end Size

theorem Contains.sizeOf_lt {x y : Condition ⊕ Query} (h : Contains x y) :
    sizeOf y < sizeOf x := by
  cases h with
  | @selected n name r h =>
    -- the entry is smaller than the list, and the list than the layer
    have hentry := List.sizeOf_lt_of_mem h
    have hlayer := n.sizeOf_clauses
    rw [ColumnSpec.subquery.sizeOf_spec] at hentry
    rw [Sum.inr.sizeOf_spec, Sum.inr.sizeOf_spec, Query.mk.sizeOf_spec]
    omega
  | @table n name r h =>
    have hentry := List.sizeOf_lt_of_mem h
    have hlayer := n.sizeOf_clauses
    rw [TableSpec.subquery.sizeOf_spec] at hentry
    rw [Sum.inr.sizeOf_spec, Sum.inr.sizeOf_spec, Query.mk.sizeOf_spec]
    omega
  | @joined n j name r hj h =>
    -- one step more: the entry is a part of a join, and the join is in the list
    have hjoin := List.sizeOf_lt_of_mem hj
    have hparts := j.sizeOf_parts
    have hlayer := n.sizeOf_clauses
    rw [h, Option.some.sizeOf_spec, TableSpec.subquery.sizeOf_spec] at hparts
    rw [Sum.inr.sizeOf_spec, Sum.inr.sizeOf_spec, Query.mk.sizeOf_spec]
    omega
  | @on n j c hj h =>
    have hjoin := List.sizeOf_lt_of_mem hj
    have hparts := j.sizeOf_parts
    have hlayer := n.sizeOf_clauses
    rw [h, Option.some.sizeOf_spec] at hparts
    rw [Sum.inr.sizeOf_spec, Sum.inl.sizeOf_spec, Query.mk.sizeOf_spec]
    omega
  | @filter n c h =>
    -- a condition of the query itself stands in no list
    have hlayer := n.sizeOf_clauses
    rw [h, Option.some.sizeOf_spec] at hlayer
    rw [Sum.inr.sizeOf_spec, Sum.inl.sizeOf_spec, Query.mk.sizeOf_spec]
    omega
  | @having n c h =>
    have hlayer := n.sizeOf_clauses
    rw [h, Option.some.sizeOf_spec] at hlayer
    rw [Sum.inr.sizeOf_spec, Sum.inl.sizeOf_spec, Query.mk.sizeOf_spec]
    omega
  | @united n u r hu h =>
    have hmember := List.sizeOf_lt_of_mem hu
    have hsource := u.sizeOf_source
    have hlayer := n.sizeOf_clauses
    rw [h, UnionSource.query.sizeOf_spec] at hsource
    rw [Sum.inr.sizeOf_spec, Sum.inr.sizeOf_spec, Query.mk.sizeOf_spec]
    omega
  | @paired pairs column r h =>
    -- the layer of a hash condition is its list of pairs
    have hpair := List.sizeOf_lt_of_mem h
    rw [Prod.mk.sizeOf_spec, HashValue.query.sizeOf_spec] at hpair
    rw [Sum.inl.sizeOf_spec, Sum.inr.sizeOf_spec, Condition.mk.sizeOf_spec,
      ConditionNode.hash.sizeOf_spec]
    omega
  | @condition op operands c h =>
    -- and that of an operator its list of operands
    have hoperand := List.sizeOf_lt_of_mem h
    rw [Operand.condition.sizeOf_spec] at hoperand
    rw [Sum.inl.sizeOf_spec, Sum.inl.sizeOf_spec, Condition.mk.sizeOf_spec,
      ConditionNode.operator.sizeOf_spec]
    omega
  | @query op operands r h =>
    have hoperand := List.sizeOf_lt_of_mem h
    rw [Operand.query.sizeOf_spec] at hoperand
    rw [Sum.inl.sizeOf_spec, Sum.inr.sizeOf_spec, Condition.mk.sizeOf_spec,
      ConditionNode.operator.sizeOf_spec]
    omega

/-! ### Induction over trees -/

/-- No tree contains itself at any depth, and every descent ends. -/
theorem wellFounded_contains : WellFounded fun y x => Contains x y :=
  Subrelation.wf Contains.sizeOf_lt (sizeOfWFRel (α := Condition ⊕ Query)).wf

/-- **Induction over trees.** A fact about all conditions and one about all queries hold if
each passes from what a layer contains to the layer. -/
theorem layer_induction {P : Condition → Prop} {Q : Query → Prop}
    (hcondition : ∀ n, (∀ c, Contains (.inl ⟨n⟩) (.inl c) → P c) →
      (∀ q, Contains (.inl ⟨n⟩) (.inr q) → Q q) → P ⟨n⟩)
    (hquery : ∀ n, (∀ c, Contains (.inr ⟨n⟩) (.inl c) → P c) →
      (∀ q, Contains (.inr ⟨n⟩) (.inr q) → Q q) → Q ⟨n⟩) :
    (∀ c, P c) ∧ ∀ q, Q q := by
  -- both facts are one fact about the sum, which has the well-founded relation
  have all : ∀ x : Condition ⊕ Query, Sum.elim P Q x := by
    intro x
    induction x using wellFounded_contains.induction with
    | _ x ih =>
      cases x with
      | inl c =>
        obtain ⟨n⟩ := c
        exact hcondition n (fun c hc => ih (.inl c) hc) fun q hq => ih (.inr q) hq
      | inr q =>
        obtain ⟨n⟩ := q
        exact hquery n (fun c hc => ih (.inl c) hc) fun q hq => ih (.inr q) hq
  exact ⟨fun c => all (.inl c), fun q => all (.inr q)⟩

/-! ### A layer depends on what it contains -/

section Congruence

variable {κ' θ' : Type} {f f' : Condition → κ'} {g g' : Query → θ'}

theorem ConditionNode.map_congr {n : ConditionNode Condition Query}
    (hf : ∀ c, Contains (.inl ⟨n⟩) (.inl c) → f c = f' c)
    (hg : ∀ q, Contains (.inl ⟨n⟩) (.inr q) → g q = g' q) : n.map f g = n.map f' g' := by
  cases n with
  | raw sql => rfl
  | hash pairs =>
    refine congrArg ConditionNode.hash (List.map_congr_left fun p hp => ?_)
    obtain ⟨column, v⟩ := p
    cases v with
    | query q => simp [HashValue.map, hg q (.paired hp)]
    | value | list => rfl
  | operator op operands =>
    refine congrArg (ConditionNode.operator op) (List.map_congr_left fun o ho => ?_)
    cases o with
    | condition c => simp [Operand.map, hf c (.condition ho)]
    | query q => simp [Operand.map, hg q (.query ho)]
    | expr | columns | value | values | rows | escape => rfl

/-- An entry of a list of tables depends on the query in it. -/
theorem TableSpec.map_congr {s : TableSpec Query}
    (hg : ∀ name q, s = .subquery name q → g q = g' q) : s.map g = s.map g' := by
  cases s with
  | subquery name q => simp [TableSpec.map, hg name q rfl]
  | bare | aliased => rfl

theorem QueryNode.map_congr {n : QueryNode Condition Query}
    (hf : ∀ c, Contains (.inr ⟨n⟩) (.inl c) → f c = f' c)
    (hg : ∀ q, Contains (.inr ⟨n⟩) (.inr q) → g q = g' q) : n.map f g = n.map f' g' := by
  -- one equation for each place at which something can stand
  have hselect : n.select.map (·.map g) = n.select.map (·.map g') := by
    refine List.map_congr_left fun c hc => ?_
    cases c with
    | subquery name q => simp [ColumnSpec.map, hg q (.selected hc)]
    | bare | aliased => rfl
  have htables : n.tables.map (·.map g) = n.tables.map (·.map g') := by
    refine List.map_congr_left fun s hs => ?_
    exact TableSpec.map_congr fun name q h => hg q (.table (h ▸ hs))
  have hjoins : n.joins.map (·.map f g) = n.joins.map (·.map f' g') := by
    refine List.map_congr_left fun j hj => ?_
    have htable : j.table.map (·.map g) = j.table.map (·.map g') := by
      refine Option.map_congr fun s hs => ?_
      exact TableSpec.map_congr fun name q h => hg q (.joined hj (h ▸ hs))
    have hon : j.on.map f = j.on.map f' := Option.map_congr fun c hc => hf c (.on hj hc)
    rw [Join.map, Join.map, htable, hon]
  have hunions : n.unions.map (·.map g) = n.unions.map (·.map g') := by
    refine List.map_congr_left fun u hu => ?_
    obtain ⟨source, all⟩ := u
    cases source with
    | query q => simp [UnionMember.map, UnionSource.map, hg q (.united hu rfl)]
    | raw => rfl
  have hfilter : n.filter.map f = n.filter.map f' := Option.map_congr fun c hc => hf c (.filter hc)
  have hhaving : n.having.map f = n.having.map f' := Option.map_congr fun c hc => hf c (.having hc)
  rw [QueryNode.map, QueryNode.map, hselect, htables, hjoins, hunions, hfilter, hhaving]

end Congruence

/-! ### Facts about what a layer has at its places -/

section Each

variable {κ θ : Type}

/-- The condition of the operand satisfies `P`, or its query `Q`, if it has one. -/
def Operand.Each (P : κ → Prop) (Q : θ → Prop) : Operand κ θ → Prop
  | condition c => P c
  | query q => Q q
  | _ => True

/-- All conditions in a layer satisfy `P`, and all queries `Q`. -/
def ConditionNode.Each (P : κ → Prop) (Q : θ → Prop) : ConditionNode κ θ → Prop
  | raw _ => True
  | hash pairs => ∀ p ∈ pairs, ∀ q, p.2 = .query q → Q q
  | operator _ operands => ∀ o ∈ operands, o.Each P Q

/-- All conditions in a layer satisfy `P`, and all queries `Q`. -/
structure QueryNode.Each (P : κ → Prop) (Q : θ → Prop) (n : QueryNode κ θ) : Prop where
  selected : ∀ name q, .subquery name q ∈ n.select → Q q
  tables : ∀ name q, .subquery name q ∈ n.tables → Q q
  joined : ∀ j ∈ n.joins, ∀ name q, j.table = some (.subquery name q) → Q q
  on : ∀ j ∈ n.joins, ∀ c, j.on = some c → P c
  filter : ∀ c, n.filter = some c → P c
  having : ∀ c, n.having = some c → P c
  united : ∀ u ∈ n.unions, ∀ q, u.source = .query q → Q q

variable {P : κ → Prop} {Q : θ → Prop} {f : Condition → κ} {g : Query → θ}

theorem ConditionNode.each_map {n : ConditionNode Condition Query}
    (hf : ∀ c, Contains (.inl ⟨n⟩) (.inl c) → P (f c))
    (hg : ∀ q, Contains (.inl ⟨n⟩) (.inr q) → Q (g q)) : (n.map f g).Each P Q := by
  cases n with
  | raw sql => exact trivial
  | hash pairs =>
    -- a pair of the new list comes from one of the old, with the same kind of right-hand side
    intro p' hp' q' hq'
    obtain ⟨⟨column, v⟩, hp, rfl⟩ := List.mem_map.mp hp'
    cases v with
    | query q =>
      cases hq'
      exact hg q (.paired hp)
    | value | list => cases hq'
  | operator op operands =>
    -- and so does an operand
    intro o' ho'
    obtain ⟨o, ho, rfl⟩ := List.mem_map.mp ho'
    cases o with
    | condition c => exact hf c (.condition ho)
    | query q => exact hg q (.query ho)
    | _ => exact trivial

/-- A query in an entry comes from the query that stood there. -/
theorem TableSpec.map_eq_subquery {s : TableSpec Query} {name : String} {q' : θ}
    (h : s.map g = .subquery name q') : ∃ q, s = .subquery name q ∧ g q = q' := by
  cases s with
  | subquery name' q =>
    cases h
    exact ⟨q, rfl, rfl⟩
  | bare | aliased => cases h

theorem QueryNode.each_map {n : QueryNode Condition Query}
    (hf : ∀ c, Contains (.inr ⟨n⟩) (.inl c) → P (f c))
    (hg : ∀ q, Contains (.inr ⟨n⟩) (.inr q) → Q (g q)) : (n.map f g).Each P Q := by
  -- at each place, what the new layer has comes from what the old one has there, and `Contains`
  -- has a constructor for the place
  constructor
  case selected =>
    -- an entry without a query is still without one, so this entry was a subquery
    intro name q' h
    obtain ⟨c, hc, heq⟩ := List.mem_map.mp h
    cases c with
    | subquery name' q =>
      cases heq
      exact hg q (.selected hc)
    | bare | aliased => cases heq
  case tables =>
    -- as above, by the lemma on one entry, which the joined tables need as well
    intro name q' h
    obtain ⟨s, hs, heq⟩ := List.mem_map.mp h
    obtain ⟨q, rfl, rfl⟩ := TableSpec.map_eq_subquery heq
    exact hg q (.table hs)
  case joined =>
    -- three layers down: the join, the table that it may have, the query in the entry
    intro j' hj' name q' h
    obtain ⟨j, hj, rfl⟩ := List.mem_map.mp hj'
    obtain ⟨s, hs, heq⟩ := Option.map_eq_some_iff.mp h
    obtain ⟨q, rfl, rfl⟩ := TableSpec.map_eq_subquery heq
    exact hg q (.joined hj hs)
  case on =>
    -- a join without a condition gets none
    intro j' hj' c' h
    obtain ⟨j, hj, rfl⟩ := List.mem_map.mp hj'
    obtain ⟨c, hc, rfl⟩ := Option.map_eq_some_iff.mp h
    exact hf c (.on hj hc)
  case filter =>
    -- a query without a condition gets none, here and at `having`
    intro c' h
    obtain ⟨c, hc, rfl⟩ := Option.map_eq_some_iff.mp h
    exact hf c (.filter hc)
  case having =>
    intro c' h
    obtain ⟨c, hc, rfl⟩ := Option.map_eq_some_iff.mp h
    exact hf c (.having hc)
  case united =>
    -- a member written as text has no query, before and after
    intro u' hu' q' h
    obtain ⟨⟨source, all⟩, hu, rfl⟩ := List.mem_map.mp hu'
    cases source with
    | query q =>
      cases h
      exact hg q (.united hu rfl)
    | raw => cases h

end Each

/-! ### Two folds -/

section Fusion

variable {α β α' β' : Type} {f : ConditionNode α β → α} {g : QueryNode α β → β}
  {f' : ConditionNode α' β' → α'} {g' : QueryNode α' β' → β'} {h : α → α'} {k : β → β'}

theorem ConditionNode.map_map {κ θ κ₁ θ₁ κ₂ θ₂ : Type} (f : κ → κ₁) (g : θ → θ₁) (f' : κ₁ → κ₂)
    (g' : θ₁ → θ₂) (n : ConditionNode κ θ) :
    (n.map f g).map f' g' = n.map (f' ∘ f) (g' ∘ g) := by
  cases n with
  | raw => rfl
  | hash pairs =>
    simp only [ConditionNode.map, List.map_map, ConditionNode.hash.injEq]
    refine List.map_congr_left fun p _ => ?_
    obtain ⟨column, v⟩ := p
    cases v <;> rfl
  | operator op operands =>
    simp only [ConditionNode.map, List.map_map, ConditionNode.operator.injEq, true_and]
    refine List.map_congr_left fun o _ => ?_
    cases o <;> rfl

theorem TableSpec.map_map {θ θ₁ θ₂ : Type} (g : θ → θ₁) (g' : θ₁ → θ₂) (s : TableSpec θ) :
    (s.map g).map g' = s.map (g' ∘ g) := by
  cases s <;> rfl

theorem QueryNode.map_map {κ θ κ₁ θ₁ κ₂ θ₂ : Type} (f : κ → κ₁) (g : θ → θ₁) (f' : κ₁ → κ₂)
    (g' : θ₁ → θ₂) (n : QueryNode κ θ) :
    (n.map f g).map f' g' = n.map (f' ∘ f) (g' ∘ g) := by
  have hcolumn : ∀ c : ColumnSpec θ, (c.map g).map g' = c.map (g' ∘ g) := by
    intro c; cases c <;> rfl
  have hjoin : ∀ j : Join κ θ, (j.map f g).map f' g' = j.map (f' ∘ f) (g' ∘ g) := by
    intro j
    simp [Join.map, Function.comp_def, TableSpec.map_map]
  have hunion : ∀ u : UnionMember θ, (u.map g).map g' = u.map (g' ∘ g) := by
    rintro ⟨source, all⟩; cases source <;> rfl
  simp only [QueryNode.map, List.map_map, Option.map_map]
  congr 1
  · exact List.map_congr_left fun c _ => hcolumn c
  · exact List.map_congr_left fun s _ => TableSpec.map_map g g' s
  · exact List.map_congr_left fun j _ => hjoin j
  · exact List.map_congr_left fun u _ => hunion u

/-- **Fusion.** If `h` and `k` take the value of each layer to the value of the layer over
what they make of its contents, they take one fold to the other. -/
theorem fold_fusion (hf : ∀ n, h (f n) = f' (n.map h k)) (hg : ∀ n, k (g n) = g' (n.map h k)) :
    (∀ c, h (Condition.fold f g c) = Condition.fold f' g' c) ∧
      ∀ q, k (Query.fold f g q) = Query.fold f' g' q := by
  refine layer_induction ?_ ?_
  · intro n ihc ihq
    rw [Condition.fold_mk, Condition.fold_mk, hf, ConditionNode.map_map]
    exact congrArg f' (ConditionNode.map_congr ihc ihq)
  · intro n ihc ihq
    rw [Query.fold_mk, Query.fold_mk, hg, QueryNode.map_map]
    exact congrArg g' (QueryNode.map_congr ihc ihq)

end Fusion

end SqlCompose

import SqlCompose.Dialect.Postgres
import SqlCompose.Proofs.Query.Shape
import SqlCompose.Proofs.Session.Agreement
/-!
# Bound data stays out of the text

A statement depends on the values in a query only in what is bound. Two queries of the same
shape, over parameters with the same names, have the same text and the same names in the same
order, or the same error (`Target.build_independent`).

`blank` wipes the values out of what was compiled, and leaves all text. Each rule of the
compiler has a lemma which says that up to `blank` it gives the same for operands without
their values, so what a query compiles to is, up to `blank`, folded from its shape
(`Target.blank_query`). Filling looks at the names in the map of an allocator and at nothing
else (`Compiled.fill_blank`).
-/

namespace SqlCompose

/-! ### What was compiled, without its values -/

/-- The fragment with null in its slots. -/
def Fragment.blank (f : Fragment) : Fragment :=
  f.map fun
    | .text s => .text s
    | .slot _ => .slot .null

/-- The rejection with null for what was bound. -/
def Rejection.blank (r : Rejection) : Rejection := { r with bound := r.bound.map fun _ => .null }

namespace Compiled

/-- What was compiled with `b` applied to it, or the rejection without its values. -/
def blankWith {α : Type} (b : α → α) : Except Rejection α → Except Rejection α
  | .ok x => .ok (b x)
  | .error r => .error r.blank

/-- What was compiled, without its values. -/
def blank (c : Compiled) : Compiled := blankWith Fragment.blank c

end Compiled

namespace Fragment

@[simp] theorem blank_text (s : String) : (text s).blank = text s := rfl

@[simp] theorem blank_append (f g : Fragment) : blank (f ++ g) = f.blank ++ g.blank :=
  List.map_append

@[simp] theorem blank_blank (f : Fragment) : f.blank.blank = f.blank := by
  rw [blank, blank, List.map_map]
  refine List.map_congr_left fun p _ => ?_
  cases p <;> rfl

@[simp] theorem isEmpty_blank (f : Fragment) : f.blank.isEmpty = f.isEmpty := by
  rw [isEmpty, blank, List.all_map, isEmpty]
  congr 1
  funext p
  cases p <;> rfl

theorem values_blank (f : Fragment) : f.blank.values = f.values.map fun _ => .null := by
  rw [values, blank, List.filterMap_map, values, List.map_filterMap]
  refine List.filterMap_congr fun p _ => ?_
  cases p <;> rfl

theorem blank_join (separator : String) (fs : List Fragment) :
    (join separator fs).blank = join separator (fs.map blank) := by
  induction fs with
  | nil => rfl
  | cons f rest ih =>
    cases rest with
    | nil => rfl
    | cons g rest => simpa [join] using ih

theorem map_blank_filter (fs : List Fragment) :
    (fs.filter (!·.isEmpty)).map blank = (fs.map blank).filter (!·.isEmpty) := by
  rw [List.filter_map]
  simp [Function.comp_def]

end Fragment

namespace Compiled

@[simp] theorem blank_ok (f : Fragment) : blank (.ok f) = .ok f.blank := rfl

@[simp] theorem blank_blank (c : Compiled) : c.blank.blank = c.blank := by
  cases c with
  | ok f => exact congrArg Except.ok f.blank_blank
  | error r => simp [blank, blankWith, Rejection.blank]

/-- Rules that put text around a fragment leave its values alone. -/
theorem blank_map {F : Fragment → Fragment} (h : ∀ f, (F f).blank = F f.blank) (c : Compiled) :
    blank (c.map F) = c.blank.map F := by
  cases c with
  | ok f => exact congrArg Except.ok (h f)
  | error r => rfl

theorem blank_enclosed (s : String) (c : Compiled) (s' : String) :
    blank (c.map fun f => Fragment.text s ++ f ++ Fragment.text s') =
      c.blank.map fun f => Fragment.text s ++ f ++ Fragment.text s' :=
  blank_map (fun f => by simp) c

theorem sequence_blank (cs : List Compiled) :
    sequence (cs.map blank) = blankWith (List.map Fragment.blank) (sequence cs) := by
  induction cs with
  | nil => rfl
  | cons c rest ih =>
    cases c with
    | error r => rfl
    | ok f =>
      rw [List.map_cons, blank_ok, sequence, ih, sequence]
      cases sequence rest with
      | ok fs => rfl
      | error r => simp [blankWith, Rejection.blank, Fragment.values_blank]

/-- Rules that put parts in a row leave their values alone. -/
theorem blank_sequence_map {F : List Fragment → Fragment} {cs : List Compiled}
    (h : ∀ fs, fs.length = cs.length → (F fs).blank = F (fs.map Fragment.blank)) :
    blank ((sequence cs).map F) = (sequence (cs.map blank)).map F := by
  rw [sequence_blank]
  cases hcs : sequence cs with
  | ok fs => exact congrArg Except.ok (h fs (length_of_sequence_eq_ok hcs))
  | error r => rfl

/-- Parts that are each made from one item, in a row. -/
theorem blank_sequence_each {α β : Type} {F : α → Compiled} {G : α → β} {F' : β → Compiled}
    {K : List Fragment → Fragment} (hF : ∀ x, blank (F x) = F' (G x))
    (hK : ∀ fs, (K fs).blank = K (fs.map Fragment.blank)) (xs : List α) :
    blank ((sequence (xs.map F)).map K) = (sequence ((xs.map G).map F')).map K := by
  rw [blank_sequence_map fun fs _ => hK fs, List.map_map, List.map_map]
  simp only [Function.comp_def, hF]

/-- Up to values, what is put around a fragment depends on the fragment up to values. -/
theorem blank_map_congr {F : Fragment → Fragment} (h : ∀ f, (F f).blank = F f.blank)
    {c c' : Compiled} (hc : c.blank = c'.blank) : blank (c.map F) = blank (c'.map F) := by
  rw [blank_map h, blank_map h, hc]

/-- Up to values, what is made of parts in a row depends on the parts up to values. -/
theorem blank_sequence_congr {F : List Fragment → Fragment}
    (h : ∀ fs, (F fs).blank = F (fs.map Fragment.blank)) {cs cs' : List Compiled}
    (hcs : cs.map blank = cs'.map blank) :
    blank ((sequence cs).map F) = blank ((sequence cs').map F) := by
  rw [blank_sequence_map fun fs _ => h fs, blank_sequence_map fun fs _ => h fs, hcs]

/-- What is read from operands may be read without its values. -/
theorem blank_lift_bind {α : Type} {g : α → α} {k k' : α → Compiled}
    (h : ∀ x, blank (k (g x)) = blank (k' x)) (x : Except Error α) :
    blank (lift (x.map g) >>= k) = blank (lift x >>= k') := by
  cases x with
  | ok x => exact h x
  | error e => rfl

theorem blank_lift_map {α : Type} {g : α → α} {F : α → Fragment}
    (h : ∀ x, (F (g x)).blank = (F x).blank) (x : Except Error α) :
    blank ((lift (x.map g)).map F) = blank ((lift x).map F) := by
  cases x with
  | ok x => exact congrArg Except.ok (h x)
  | error e => rfl

end Compiled

/-! ### Reading operands without their values -/

namespace Operand

variable {κ θ : Type} (op : Operator) (bound : Bool)

@[simp] theorem asColumn_blank (o : Operand κ θ) :
    (o.blank false).asColumn op = o.asColumn op := by
  cases o with
  | columns names => rcases names with _ | ⟨name, _ | ⟨name', rest⟩⟩ <;> rfl
  | _ => rfl

@[simp] theorem memberColumns_blank (o : Operand κ θ) :
    (o.blank false).memberColumns op = o.memberColumns op := by
  cases o <;> rfl

@[simp] theorem asValue_blank (o : Operand κ θ) :
    (o.blank true).asValue op = (o.asValue op).map Value.blank := by
  cases o <;> rfl

@[simp] theorem listsNothing_blank (o : Operand κ θ) :
    (o.blank bound).listsNothing = o.listsNothing := by
  cases o with
  | values vs => cases vs <;> rfl
  | rows rs => cases rs <;> rfl
  | _ => rfl

theorem valueIn_blank (row : List (String × Value)) (column : String) :
    valueIn (row.map fun e => (e.1, e.2.blank)) column = (valueIn row column).blank := by
  rw [valueIn, List.find?_map, valueIn]
  simp only [Function.comp_def]
  cases row.find? fun e => e.1 == column <;> rfl

theorem map_valueIn_blank (rows : List (List (String × Value))) (column : String) :
    (rows.map fun row => row.map fun e => (e.1, e.2.blank)).map (valueIn · column) =
      (rows.map (valueIn · column)).map Value.blank := by
  simp only [List.map_map, Function.comp_def, valueIn_blank]

@[simp] theorem patterns_blank (o : Operand κ θ) :
    (o.blank true).patterns op = (o.patterns op).map (List.map Value.blank) := by
  cases o <;> rfl

/-- What a pattern operator is applied to, without the values. -/
def Matching.blank (m : Matching) : Matching := { m with patterns := m.patterns.map Value.blank }

theorem matchingWith_blank (column right : Operand κ θ) (escape : LikeEscape) :
    matchingWith op (column.blank false) (right.blank true) escape =
      (matchingWith op column right escape).map Matching.blank := by
  rw [matchingWith, asColumn_blank, patterns_blank, matchingWith]
  cases column.asColumn op with
  | error e => rfl
  | ok name => cases right.patterns op <;> rfl

theorem matching_blank (os : List (Operand κ θ)) :
    matching op (blankAll true os) = (matching op os).map Matching.blank := by
  rcases os with _ | ⟨o, _ | ⟨o', _ | ⟨o₃, _ | ⟨o₄, rest⟩⟩⟩⟩
  · rfl
  · rfl
  · exact matchingWith_blank op o o' .standard
  · cases o₃ with
    | escape e => exact matchingWith_blank op o o' e
    | _ => rfl
  · cases o₃ <;> rfl

theorem blankAll_false (os : List (Operand κ θ)) :
    blankAll false os = os.map (Operand.blank false) := by
  cases os <;> rfl

end Operand

/-! ### Conditions -/

/-- Parts without values, in what was compiled and in themselves. -/
def Part.blankAll (bound : Bool) (parts : List Part) : List Part :=
  Operand.blankAll bound (parts.map (·.map Compiled.blank Compiled.blank))

section Conditions

variable (d : Dialect)

theorem Fragment.blank_entry (v : Value) : (entry v.blank).blank = (entry v).blank := by
  cases v <;> rfl

theorem Fragment.blank_tuple (names : List String) (row : List (String × Value)) :
    (tuple names (row.map fun e => (e.1, e.2.blank))).blank = (tuple names row).blank := by
  simp only [tuple, blank_append, blank_text, blank_join, List.map_map, Function.comp_def,
    Operand.valueIn_blank, blank_entry]

theorem Part.asCondition_blank (op : Operator) (message : String) (p : Part) :
    Part.asCondition op message ((p.map Compiled.blank Compiled.blank).blank false) =
      Compiled.blank (p.asCondition op message) := by
  cases p <;> rfl

namespace Dialect

theorem blank_listed (op : Operator) (column : String) (vs : List Value) :
    (d.listed op column (vs.map Value.blank)).blank = (d.listed op column vs).blank := by
  rcases vs with _ | ⟨v, _ | ⟨v', rest⟩⟩
  · rfl
  · simp [listed, Fragment.blank_entry]
  · simp [listed, Fragment.blank_join, Function.comp_def, Fragment.blank_entry]

theorem blank_inQuery (op : Operator) (names : List String) (q : Compiled) :
    Compiled.blank (d.inQuery op names q.blank) = Compiled.blank (d.inQuery op names q) :=
  Compiled.blank_map_congr (fun f => by simp) q.blank_blank

theorem blank_inRows (op : Operator) (names : List String)
    (rows : List (List (String × Value))) :
    (d.inRows op names (rows.map fun row => row.map fun e => (e.1, e.2.blank))).blank =
      (d.inRows op names rows).blank := by
  simp [inRows, Fragment.blank_join, Function.comp_def, Fragment.blank_tuple]

theorem blank_memberOf (op : Operator) (names : List String) (right : Part) :
    (d.memberOf op names ((right.map Compiled.blank Compiled.blank).blank true)).blank =
      (d.memberOf op names right).blank := by
  unfold memberOf
  rw [Operand.listsNothing_blank, Operand.listsNothing_map]
  split
  · rfl
  · next h =>
    -- one column is looked for in all that has values, several only in rows
    rcases names with _ | ⟨name, _ | ⟨name', rest⟩⟩
    · exact absurd rfl h
    · cases right with
      | query q => exact d.blank_inQuery op [name] q
      | expr text => exact congrArg Except.ok (d.blank_listed op name [.string text])
      | value v => exact congrArg Except.ok (d.blank_listed op name [v])
      | values vs => exact congrArg Except.ok (d.blank_listed op name vs)
      | rows rs =>
        refine congrArg Except.ok (Eq.trans ?_ (d.blank_listed op name _))
        exact congrArg (fun vs => (d.listed op name vs).blank) (Operand.map_valueIn_blank rs name)
      | condition | columns | escape => rfl
    · cases right with
      | query q => exact d.blank_inQuery op _ q
      | rows rs => exact congrArg Except.ok (d.blank_inRows op (name :: name' :: rest) rs)
      | _ => rfl

theorem blank_junction (op : Operator) (parts : List Part) :
    (junction op (Part.blankAll false parts)).blank = (junction op parts).blank := by
  refine Compiled.blank_sequence_congr (fun fs => ?_) ?_
  · -- a fragment is text with or without its values, so the same ones are left out
    rw [← Fragment.map_blank_filter]
    cases fs.filter (!·.isEmpty) with
    | nil => rfl
    | cons f rest => simp [Fragment.blank_join]
  · rw [Part.blankAll, Operand.blankAll_false]
    simp only [List.map_map, Function.comp_def, Part.asCondition_blank, Compiled.blank_blank]

theorem blank_negation (op : Operator) (parts : List Part) :
    (negation op (Part.blankAll false parts)).blank = (negation op parts).blank := by
  rcases parts with _ | ⟨p, _ | ⟨p', rest⟩⟩
  · rfl
  · refine Compiled.blank_map_congr (fun f => ?_) ?_
    · rw [Fragment.isEmpty_blank]
      split <;> simp
    · rw [Part.asCondition_blank, Compiled.blank_blank]
  · rfl

theorem blank_range (op : Operator) (parts : List Part) :
    (d.range op (Part.blankAll true parts)).blank = (d.range op parts).blank := by
  rcases parts with _ | ⟨p, _ | ⟨p', _ | ⟨p₃, _ | ⟨p₄, rest⟩⟩⟩⟩
  · rfl
  · rfl
  · rfl
  · simp only [Part.blankAll, Operand.blankAll, List.map_cons, List.map_nil, range,
      Operand.asColumn_blank, Operand.asColumn_map, Operand.asValue_blank, Operand.asValue_map]
    cases p.asColumn op with
    | error e => rfl
    | ok name =>
      -- both bounds are read without their values
      change Compiled.blank (Compiled.lift ((p'.asValue op).map Value.blank) >>= _) =
        Compiled.blank (Compiled.lift (p'.asValue op) >>= _)
      refine Compiled.blank_lift_bind (fun low => ?_) _
      refine Compiled.blank_lift_bind (fun high => ?_) _
      rfl
  · rfl

theorem blank_membership (op : Operator) (parts : List Part) :
    (d.membership op (Part.blankAll true parts)).blank = (d.membership op parts).blank := by
  rcases parts with _ | ⟨p, _ | ⟨p', _ | ⟨p'', rest⟩⟩⟩
  · rfl
  · rfl
  · simp only [Part.blankAll, Operand.blankAll, List.map_cons, List.map_nil, membership,
      Operand.memberColumns_blank, Operand.memberColumns_map]
    cases p.memberColumns op with
    | error e => rfl
    | ok names => exact d.blank_memberOf op names p'
  · rfl

theorem blank_fitsAny (likeOp : LikeOp) (m : Operand.Matching) :
    (d.fitsAny likeOp m.blank).blank = (d.fitsAny likeOp m).blank := by
  obtain ⟨column, vs, escape⟩ := m
  cases vs with
  | nil => rfl
  | cons v rest =>
    simp only [fitsAny, Operand.Matching.blank, List.map_cons, Fragment.blank_join, List.map_map]
    rfl

theorem blank_like (op : Operator) (likeOp : LikeOp) (parts : List Part) :
    (d.like op likeOp (Part.blankAll true parts)).blank = (d.like op likeOp parts).blank := by
  rw [like, Part.blankAll, Operand.matching_blank, Operand.matching_map]
  exact Compiled.blank_lift_map (d.blank_fitsAny likeOp) _

theorem blank_existence (op : Operator) (parts : List Part) :
    (existence op (Part.blankAll true parts)).blank = (existence op parts).blank := by
  rcases parts with _ | ⟨p, _ | ⟨p', rest⟩⟩
  · rfl
  · cases p with
    | query q => exact Compiled.blank_map_congr (fun f => by simp) q.blank_blank
    | _ => rfl
  · cases p <;> rfl

theorem blank_comparison (op : Operator) (parts : List Part) :
    (d.comparison op (Part.blankAll true parts)).blank = (d.comparison op parts).blank := by
  rcases parts with _ | ⟨p, _ | ⟨p', _ | ⟨p'', rest⟩⟩⟩
  · rfl
  · rfl
  · simp only [Part.blankAll, Operand.blankAll, List.map_cons, List.map_nil, comparison,
      Operand.asColumn_blank, Operand.asColumn_map]
    cases p.asColumn op with
    | error e => rfl
    | ok name =>
      -- a query has values inside, and a null is written without an entry
      cases p' with
      | query q => exact Compiled.blank_map_congr (fun f => by simp) q.blank_blank
      | value v => cases v <;> rfl
      | _ => rfl
  · rfl

theorem blank_operator (op : Operator) (parts : List Part) :
    (d.operator op (Part.blankAll op.bindsText parts)).blank = (d.operator op parts).blank := by
  cases op with
  | and | or => exact blank_junction _ parts
  | not => exact blank_negation _ parts
  | between | notBetween => exact d.blank_range _ parts
  | isIn | notIn => exact d.blank_membership _ parts
  | like likeOp => exact d.blank_like _ likeOp parts
  | hasRow | hasNoRow => exact blank_existence _ parts
  | compare text => exact d.blank_comparison _ parts

theorem blank_pair (column : String) (v : HashValue Compiled) :
    (d.pair column (v.map Compiled.blank).blank).blank = (d.pair column v).blank := by
  cases v with
  | list vs => exact congrArg Except.ok (d.blank_listed .isIn column vs)
  | query q => exact d.blank_inQuery .isIn [column] q
  | value v => cases v <;> rfl

theorem blank_hash (pairs : List (String × HashValue Compiled)) :
    (d.hash (pairs.map fun p => (p.1, (p.2.map Compiled.blank).blank))).blank =
      (d.hash pairs).blank := by
  refine Compiled.blank_sequence_congr (fun fs => ?_) ?_
  · rcases fs with _ | ⟨f, _ | ⟨f', rest⟩⟩
    · rfl
    · rfl
    · simp [Fragment.blank_join]
  · simp only [List.map_map, Function.comp_def, blank_pair]

/-- **A layer of a condition** compiles to the same without its values. -/
theorem blank_conditionNode (n : ConditionNode Compiled Compiled) :
    (d.conditionNode (n.map Compiled.blank Compiled.blank).blank).blank =
      (d.conditionNode n).blank := by
  cases n with
  | raw sql => rfl
  | hash pairs =>
    simp only [ConditionNode.map, ConditionNode.blank, List.map_map]
    exact d.blank_hash pairs
  | operator op parts => exact d.blank_operator op parts

end Dialect

end Conditions

/-! ### Clauses -/

section Clauses

variable (t : Target)

namespace Dialect

variable (d : Dialect)

theorem blank_selectEntry (c : ColumnSpec Compiled) :
    Compiled.blank (d.selectEntry c) = d.selectEntry (c.map Compiled.blank) := by
  cases c with
  | subquery name q => exact Compiled.blank_enclosed _ q _
  | aliased | bare => rfl

theorem blank_selectClause (columns : List (ColumnSpec Compiled)) (distinct : Bool)
    (option : Option String) :
    Compiled.blank (d.selectClause columns distinct option) =
      d.selectClause (columns.map (·.map Compiled.blank)) distinct option := by
  cases columns with
  | nil => rfl
  | cons c rest =>
    exact Compiled.blank_sequence_each d.blank_selectEntry (fun fs => by simp [Fragment.blank_join]) _

theorem blank_tableEntry (s : TableSpec Compiled) :
    Compiled.blank (d.tableEntry s) = d.tableEntry (s.map Compiled.blank) := by
  cases s with
  | subquery name q => exact Compiled.blank_enclosed _ q _
  | aliased | bare => rfl

theorem blank_fromClause (tables : List (TableSpec Compiled)) :
    Compiled.blank (d.fromClause tables) = d.fromClause (tables.map (·.map Compiled.blank)) := by
  cases tables with
  | nil => rfl
  | cons s rest =>
    exact Compiled.blank_sequence_each d.blank_tableEntry (fun fs => by simp [Fragment.blank_join]) _

theorem blank_keywordClause (keyword : String) (condition : Option Compiled) :
    Compiled.blank (keywordClause keyword condition) =
      keywordClause keyword (condition.map Compiled.blank) := by
  cases condition with
  | none => rfl
  | some c =>
    refine Compiled.blank_map (fun f => ?_) c
    rw [Fragment.isEmpty_blank]
    split <;> simp

theorem blank_joinEntry (j : Join Compiled Compiled) :
    Compiled.blank (d.joinEntry j) = d.joinEntry (j.map Compiled.blank Compiled.blank) := by
  obtain ⟨joinType, table, on⟩ := j
  cases table with
  | none => rfl
  | some s =>
    cases hwords : (Text.trim joinType).isEmpty with
    | true =>
      -- the refusal is the same whatever the table and the condition are
      have hrefused := d.joinEntry_of_blank hwords
      exact (congrArg Compiled.blank (hrefused s on)).trans (hrefused _ _).symm
    | false =>
      rw [d.joinEntry_of_not_blank hwords, Join.map, Option.map_some,
        d.joinEntry_of_not_blank hwords, ← blank_tableEntry, ← blank_keywordClause]
      refine Compiled.blank_sequence_map fun fs hfs => ?_
      obtain ⟨f, on, rfl⟩ := List.length_eq_two.mp hfs
      simp

theorem blank_unionEntry (u : UnionMember Compiled) :
    Compiled.blank (unionEntry u) = unionEntry (u.map Compiled.blank) := by
  obtain ⟨source, all⟩ := u
  cases source with
  | query q => exact Compiled.blank_enclosed _ q _
  | raw sql => rfl

theorem blank_unionClause (unions : List (UnionMember Compiled)) :
    Compiled.blank (unionClause unions) = unionClause (unions.map (·.map Compiled.blank)) :=
  Compiled.blank_sequence_each blank_unionEntry (Fragment.blank_join " ") unions

end Dialect

namespace Target

theorem blank_joinClause (joins : List (Join Compiled Compiled)) :
    Compiled.blank (t.joinClause joins) =
      t.joinClause (joins.map (·.map Compiled.blank Compiled.blank)) :=
  Compiled.blank_sequence_each t.dialect.blank_joinEntry (Fragment.blank_join t.separator) joins

theorem blank_followedBy (f : Fragment) (clause : String) :
    (t.followedBy f clause).blank = t.followedBy f.blank clause := by
  unfold followedBy
  split <;> simp

/-- **A layer of a query** has no values of its own. -/
theorem blank_queryNode (n : QueryNode Compiled Compiled) :
    Compiled.blank (t.queryNode n) =
      t.queryNode (n.map Compiled.blank Compiled.blank).blank := by
  refine (Compiled.blank_sequence_map fun fs hfs => ?_).trans ?_
  · match fs, hfs with
    | [select, tables, joins, rows, groups, having, union], _ =>
      -- which of the clauses are joined depends on the empty ones alone, and these stay empty
      have hclauses := Fragment.map_blank_filter [select, tables, joins, rows, groups, having]
      simp only [List.map_cons, List.map_nil] at hclauses ⊢
      rw [Fragment.isEmpty_blank, ← hclauses]
      split <;> simp only [Fragment.blank_append, Fragment.blank_text, blank_followedBy,
        Fragment.blank_join]
  · simp only [List.map_cons, List.map_nil, Compiled.blank_ok, Fragment.blank_text,
      Dialect.blank_selectClause, Dialect.blank_fromClause, blank_joinClause,
      Dialect.whereClause, Dialect.havingClause, Dialect.blank_keywordClause,
      Dialect.blank_unionClause]
    rfl

/-- **What a query compiles to, without its values, is folded from its shape.** -/
theorem blank_query (q : Query) :
    Compiled.blank (t.query q) =
      Query.fold (fun n => Compiled.blank (t.dialect.conditionNode n)) t.queryNode q.shape := by
  rw [(fold_shape _ _).2]
  exact (fold_fusion (fun n => (t.dialect.blank_conditionNode n).symm) t.blank_queryNode).2 q

end Target

end Clauses

/-! ### Filling -/

/-- The allocator with null for every name. -/
def Allocator.blank (a : Allocator) : Allocator := { a with params := a.params.blank }

theorem Allocator.blank_new (p : Params) : (Allocator.new p).blank = Allocator.new p.blank := by
  rw [Allocator.new, Allocator.new, Params.size_blank]
  rfl

theorem Allocator.free_blank (a : Allocator) : a.blank.free = a.free := by
  simp only [free, blank, Params.contains_blank, Params.size_blank]

/-- Which name a value gets does not depend on values. -/
theorem Allocator.bind_blank (a : Allocator) (v : Value) :
    a.blank.bind .null = ((a.bind v).1, (a.bind v).2.blank) := by
  simp only [bind, free_blank]
  rw [blank, blank, Params.blank_insert]

theorem Fragment.fill_blank (a : Allocator) (f : Fragment) :
    fill a.blank f.blank = ((fill a f).1, (fill a f).2.blank) := by
  induction f generalizing a with
  | nil => rfl
  | cons p f ih =>
    cases p with
    | text s =>
      change fill a.blank (.text s :: blank f) = _
      rw [fill_text_cons, ih, fill_text_cons]
    | slot v =>
      change fill a.blank (.slot .null :: blank f) = _
      rw [fill_slot_cons, a.bind_blank v, ih, fill_slot_cons]

theorem Allocator.bindAll_blank (a : Allocator) (vs : List Value) :
    (a.blank.bindAll (vs.map fun _ => .null)).2 = (a.bindAll vs).2.blank := by
  induction vs generalizing a with
  | nil => rfl
  | cons v vs ih =>
    change ((a.blank.bind .null).2.bindAll _).2 = ((a.bind v).2.bindAll vs).2.blank
    rw [a.bind_blank v]
    exact ih (a.bind v).2

/-- **Filling looks at names only.** -/
theorem Compiled.fill_blank (a : Allocator) (c : Compiled) :
    c.blank.fill a.blank = ((c.fill a).1, (c.fill a).2.blank) := by
  cases c with
  | ok f =>
    change (Except.ok (Fragment.fill a.blank f.blank).1, (Fragment.fill a.blank f.blank).2) = _
    rw [Fragment.fill_blank]
    rfl
  | error r => exact congrArg (Except.error r.error, ·) (a.bindAll_blank r.bound)

namespace Target

/-- The text and the names of a statement, from what was compiled without its values and from
the names in the map that it is filled over. -/
theorem build_eq_blank (t : Target) (q : Query) (seed : Params) :
    (t.build q seed).map (fun st => (st.sql, st.params.keys)) =
      let filled := (Compiled.blank (t.query q)).fill
        (Allocator.new (q.shape.collectParams seed.blank))
      filled.1.map fun sql => (sql, filled.2.params.keys) := by
  rw [build_eq, ← Query.blank_collectParams, ← Allocator.blank_new, Compiled.fill_blank]
  dsimp only
  rw [Allocator.blank, Params.keys_blank]
  cases (Compiled.fill _ (t.query q)).1 <;> rfl

/-- **Bound data never reaches the text.** Queries that differ in their values only, over
parameters with the same names in the same order, have statements with the same text and the
same names in the same order, or the same error. -/
theorem build_independent (t : Target) {q q' : Query} (hq : q.SameShape q') {seed seed' : Params}
    (hseed : seed.keys = seed'.keys) :
    (t.build q seed).map (fun st => (st.sql, st.params.keys)) =
      (t.build q' seed').map fun st => (st.sql, st.params.keys) := by
  rw [build_eq_blank, build_eq_blank, blank_query, blank_query, hq, Params.blank_eq_iff.mpr hseed]

/-- Bounds, a list and parameters with quotes in them: the text is the one for numbers. -/
theorem build_independent_bounds :
    let q : Value → String → Query := fun v text =>
      ⟨{ tables := [.bare "t"]
         filter := some ⟨.operator .and [
           .condition ⟨.operator .between [.expr "a", .value v, .expr text]⟩,
           .condition ⟨.hash [("b", .list [v, .null])]⟩]⟩
         params := ⟨[(":x", v)]⟩ }⟩
    let seed : Value → Params := fun v => ⟨[(":qp1", v)]⟩
    let outcome := fun v text => (build ⟨Dialect.postgres, " "⟩ (q v text) (seed v)).map fun st =>
      (st.sql, st.params.keys)
    outcome (.string "\x27") "\x27 OR 1=1" = outcome (.int 1) "2" ∧
      outcome (.int 1) "2" =
        .ok ("SELECT * FROM \x22t\x22 WHERE " ++
          "(\x22a\x22 BETWEEN :qp2 AND :qp3) AND (\x22b\x22 IN (:qp4, NULL))",
        [":qp1", ":x", ":qp2", ":qp3", ":qp4"]) := by
  intro q seed outcome
  have hshape : (q (.string "\x27") "\x27 OR 1=1").SameShape (q (.int 1) "2") := rfl
  exact ⟨build_independent _ hshape rfl, by decide +kernel⟩

end Target

end SqlCompose

import SqlCompose.Proofs.Query.Inside
/-!
# The shape of a query

Queries have the same shape (`Query.SameShape`) if one is the other with other values in it:
in hash conditions, in operands, where an operator expects a value and finds text, and in the
parameters of the query and of the queries inside it. Everything else is the same: names,
raw SQL, operators, the lengths of lists, the names of parameters, and where null stands.

This is stated with a normal form. `blank` wipes out the values of one layer, and
`Query.shape` those of a whole tree. What is folded from the shape of a query is folded from
the query if each layer is blanked first (`fold_shape`).
-/

namespace SqlCompose

variable {κ θ κ' θ' : Type}

/-! ### Values that are wiped out -/

/-- One and the same value in place of every value other than null. -/
def Value.blank : Value → Value
  | .null => .null
  | _ => .string ""

/-- The same names, all of them for null. -/
def Params.blank (p : Params) : Params := ⟨p.entries.map fun e => (e.1, .null)⟩

/-- The right-hand side without its values. -/
def HashValue.blank : HashValue θ → HashValue θ
  | value v => value v.blank
  | list vs => list (vs.map Value.blank)
  | query q => query q

/-- The operand without its values; `bound` says whether text is one. -/
def Operand.blank (bound : Bool) : Operand κ θ → Operand κ θ
  | expr text => expr (if bound then "" else text)
  | value v => value v.blank
  | values vs => values (vs.map Value.blank)
  | rows rs => rows (rs.map fun row => row.map fun e => (e.1, e.2.blank))
  | o => o

/-- Whether an operator binds text behind its first operand. Junctions and negations take
text as it is. -/
def Operator.bindsText : Operator → Bool
  | and | or | not => false
  | _ => true

/-- The operands without their values; `bound` says whether text is one behind the first. -/
def Operand.blankAll (bound : Bool) : List (Operand κ θ) → List (Operand κ θ)
  | [] => []
  | o :: os => o.blank false :: os.map (Operand.blank bound)

/-- The layer without its values. -/
def ConditionNode.blank : ConditionNode κ θ → ConditionNode κ θ
  | raw sql => raw sql
  | hash pairs => hash (pairs.map fun p => (p.1, p.2.blank))
  | operator op operands => operator op (Operand.blankAll op.bindsText operands)

/-- The layer without the values of its parameters. -/
def QueryNode.blank (n : QueryNode κ θ) : QueryNode κ θ := { n with params := n.params.blank }

/-! ### Trees -/

/-- A condition without its values, at any depth. -/
def Condition.shape (c : Condition) : Condition :=
  Condition.fold (fun n => ⟨n.blank⟩) (fun n => ⟨n.blank⟩) c

/-- A query without its values, at any depth. -/
def Query.shape (q : Query) : Query :=
  Query.fold (fun n => ⟨n.blank⟩) (fun n => ⟨n.blank⟩) q

/-- **The same shape**: the queries differ at most in their values. -/
def Query.SameShape (q q' : Query) : Prop := q.shape = q'.shape

/-! ### Values do not depend on what stands inside -/

section Map

variable (f : κ → κ') (g : θ → θ')

theorem HashValue.blank_map (v : HashValue θ) : (v.map g).blank = v.blank.map g := by
  cases v <;> rfl

theorem Operand.blank_map (bound : Bool) (o : Operand κ θ) :
    (o.map f g).blank bound = (o.blank bound).map f g := by
  cases o <;> rfl

theorem Operand.blankAll_map (bound : Bool) (os : List (Operand κ θ)) :
    blankAll bound (os.map (·.map f g)) = (blankAll bound os).map (·.map f g) := by
  cases os with
  | nil => rfl
  | cons o os =>
    simp only [blankAll, List.map_cons, List.map_map, Function.comp_def, blank_map]

theorem ConditionNode.blank_map (n : ConditionNode κ θ) :
    (n.map f g).blank = n.blank.map f g := by
  cases n with
  | raw sql => rfl
  | hash pairs =>
    simp only [map, blank, List.map_map, Function.comp_def, HashValue.blank_map]
  | operator op os => exact congrArg (operator op) (Operand.blankAll_map f g _ os)

theorem QueryNode.blank_map (n : QueryNode κ θ) : (n.map f g).blank = n.blank.map f g := rfl

end Map

/-- **Folding a shape** is folding with every layer blanked first. -/
theorem fold_shape {α β : Type} (f : ConditionNode α β → α) (g : QueryNode α β → β) :
    (∀ c : Condition, Condition.fold f g c.shape =
        Condition.fold (fun n => f n.blank) (fun n => g n.blank) c) ∧
      ∀ q : Query, Query.fold f g q.shape =
        Query.fold (fun n => f n.blank) (fun n => g n.blank) q := by
  refine fold_fusion (fun n => ?_) fun n => ?_
  · rw [Condition.fold_mk, ConditionNode.blank_map]
  · rw [Query.fold_mk, QueryNode.blank_map]

/-! ### The parameters of a shape -/

theorem ConditionNode.gather_blank {γ : Type} (n : ConditionNode (List γ) (List γ)) :
    n.blank.gather = n.gather := by
  cases n with
  | raw sql => rfl
  | hash pairs =>
    have hquery : ∀ v : HashValue (List γ), v.blank.query? = v.query? := by
      intro v; cases v <;> rfl
    simp only [blank, gather, List.filterMap_map, Function.comp_def, hquery]
  | operator op os =>
    -- the first operand is blanked in a way of its own
    cases os with
    | nil => rfl
    | cons o os =>
      simp only [blank, Operand.blankAll, gather, List.flatMap_cons, List.flatMap_map]
      congr 1
      · cases o <;> rfl
      · refine List.flatMap_congr fun o _ => ?_
        cases o <;> rfl

/-- A shape has the names of its parameters, at any depth. -/
theorem Query.paramsInside_shape (q : Query) :
    q.shape.paramsInside = q.paramsInside.map Params.blank := by
  rw [paramsInside, (fold_shape _ _).2, paramsInside]
  refine ((fold_fusion (h := List.map Params.blank) (k := List.map Params.blank)
    (fun n => ?_) fun n => ?_).2 q).symm
  · rw [ConditionNode.gather_blank, ConditionNode.gather_map_map]
  · rw [List.map_cons, ← QueryNode.gather_map_map]
    rfl

namespace Params

theorem keys_blank (p : Params) : p.blank.keys = p.keys := by
  simp [keys, blank, Function.comp_def]

theorem size_blank (p : Params) : p.blank.size = p.size := List.length_map _

theorem contains_blank (p : Params) (name : String) : p.blank.contains name = p.contains name := by
  simp [contains, blank, Function.comp_def]

/-- Blanked parameters are known from their names. -/
theorem blank_eq_iff {p p' : Params} : p.blank = p'.blank ↔ p.keys = p'.keys := by
  constructor
  · intro h
    rw [← p.keys_blank, h, keys_blank]
  · intro h
    have hkeys : ∀ p : Params, p.blank = ⟨p.keys.map fun name => (name, .null)⟩ := by
      intro p
      simp [keys, blank, Function.comp_def]
    rw [hkeys, hkeys, h]

theorem blank_insert (p : Params) (name : String) (value : Value) :
    (p.insert name value).blank = p.blank.insert name .null := by
  obtain ⟨entries⟩ := p
  refine congrArg Params.mk ?_
  change (insertEntry name value entries).map (fun e => (e.1, Value.null)) =
    insertEntry name .null (entries.map fun e => (e.1, .null))
  induction entries with
  | nil => rfl
  | cons e rest ih =>
    by_cases h : e.1 = name
    · simp [insertEntry, h]
    · simpa [insertEntry, h] using ih

theorem blank_merge (p p' : Params) : (p.merge p').blank = p.blank.merge p'.blank := by
  obtain ⟨entries⟩ := p'
  change (p.insertMany entries).blank = p.blank.insertMany (entries.map fun e => (e.1, .null))
  induction entries generalizing p with
  | nil => rfl
  | cons e rest ih => exact (ih (p.insert e.1 e.2)).trans (by rw [blank_insert]; rfl)

theorem blank_foldl_merge (ps : List Params) (p : Params) :
    (ps.foldl merge p).blank = (ps.map blank).foldl merge p.blank := by
  induction ps generalizing p with
  | nil => rfl
  | cons q ps ih => rw [List.foldl_cons, ih, blank_merge, List.map_cons, List.foldl_cons]

end Params

/-- Collecting parameters does not look at their values. -/
theorem Query.blank_collectParams (q : Query) (seed : Params) :
    (q.collectParams seed).blank = q.shape.collectParams seed.blank := by
  rw [collectParams, Params.blank_foldl_merge, ← q.paramsInside_shape]
  rfl

end SqlCompose

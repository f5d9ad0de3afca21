import SqlCompose.Proofs.Boolean.Formula
import SqlCompose.Proofs.Session.Agreement
import SqlCompose.Proofs.Session.Outcome
/-!
# What a condition says

`Condition.formula` is what a condition says: a formula whose leaves are predicates. A
predicate is a raw text, a pair of a hash condition, one pattern of a pattern operator,
or an operator that is neither a junction nor a negation.

The predicates of a condition can be written alone, from left to right. `Target.Writes`
relates this to the writing of the whole: it takes the same bindings, and the text of
the whole has something to do with the formula over what was written. How items are
written that stand one behind the other is `Target.writes_mapM`.
-/

namespace SqlCompose

/-! ### What a condition says -/

/-- A part of a condition that is true or false as a whole. -/
inductive Predicate
  /-- SQL text. -/
  | raw (sql : String)
  /-- A column of a hash condition. -/
  | pair (column : String) (value : HashValue Query)
  /-- One pattern of a pattern operator. -/
  | pattern (op : LikeOp) (matching : Operand.Matching) (v : Value)
  /-- An operator with its operands. -/
  | applied (op : Operator) (operands : List (Operand Condition Query))
  /-- An operand of a junction or a negation that is no condition. -/
  | misplaced (op : Operator) (message : String)

mutual
/-- The formula of a condition. -/
def Condition.formula : Condition → Formula Predicate
  | ⟨n⟩ => formulaOfNode n

/-- The formula of one layer of a condition: pairs and patterns are joined, and so are the
operands of a junction. -/
def formulaOfNode : ConditionNode Condition Query → Formula Predicate
  | .raw sql => .leaf (.raw sql)
  | .hash pairs => .fold .and (pairs.map fun p => .leaf (.pair p.1 p.2))
  | .operator op operands =>
    match op with
    | .and => .fold .and (formulasOfOperands op "operands must be conditions" operands)
    | .or => .fold .or (formulasOfOperands op "operands must be conditions" operands)
    | .not =>
      match formulasOfOperands op "operand must be a condition" operands with
      | [f] => .negated f
      | _ => .leaf (.applied op operands)
    | .like likeOp =>
      match Operand.matching op operands with
      | .ok m =>
        if m.patterns.isEmpty then .leaf (.applied op operands)
        else .fold likeOp.joiner (m.patterns.map fun v => .leaf (.pattern likeOp m v))
      | .error _ => .leaf (.applied op operands)
    | _ => .leaf (.applied op operands)

/-- The formulas of the operands of a junction or a negation. -/
def formulasOfOperands (op : Operator) (message : String) :
    List (Operand Condition Query) → List (Formula Predicate)
  | [] => []
  | o :: os => formulaOfOperand op message o :: formulasOfOperands op message os

/-- The formula of an operand of a junction or a negation. -/
def formulaOfOperand (op : Operator) (message : String) :
    Operand Condition Query → Formula Predicate
  | .condition c => c.formula
  | .expr sql => .leaf (.raw sql)
  | _ => .leaf (.misplaced op message)
end

theorem formulasOfOperands_eq (op : Operator) (message : String)
    (os : List (Operand Condition Query)) :
    formulasOfOperands op message os = os.map (formulaOfOperand op message) := by
  induction os with
  | nil => rw [formulasOfOperands, List.map_nil]
  | cons o os ih => rw [formulasOfOperands, ih, List.map_cons]

/-! ### How it is written -/

/-- A predicate that was written. Labels can tell predicates with the same text apart. -/
structure Leaf where
  predicate : Predicate
  text : String
  label : Nat

namespace Leaf

/-- The predicate and its text. -/
def written (l : Leaf) : Predicate × String := (l.predicate, l.text)

/-- The truth value of a leaf, if these hold; a leaf without text is absent. -/
def value (holds : Leaf → Bool) (l : Leaf) : Option Bool :=
  if l.text.isEmpty then none else some (holds l)

end Leaf

/-- The leaves that are any text. -/
def Formula.kept (B : Formula Leaf) : List Leaf := B.leaves.filter (!·.text.isEmpty)

namespace Target

variable (t : Target)

/-- Writes a predicate. -/
def writePredicate : Predicate → Session String
  | .raw sql => pure sql
  | .pair column v => t.dialect.writePair column (v.map t.write)
  | .pattern op m v => t.dialect.writeFits op m v
  | .applied op operands =>
    t.dialect.writeOperator op (operands.map (·.map t.writeCondition t.write))
  | .misplaced op message => Session.lift (Operand.invalid op message)

/-- Writes a predicate and keeps both it and its text. -/
def writeLeaf (p : Predicate) : Session (Predicate × String) := do
  let sql ← t.writePredicate p
  pure (p, sql)

/-- **Writing a formula.** Whenever the session writes a text, the predicates of the formula
can be written from left to right by the same bindings, and the text is related to the
formula over what was written, whichever labels this has. -/
def Writes (R : String → Formula Leaf → Prop) (x : Session String) (φ : Formula Predicate) :
    Prop :=
  ∀ (a a' : Allocator) (s : String), x.runFrom a = (.ok s, a') →
    ∃ F, (φ.traverse t.writeLeaf).runFrom a = (.ok F, a') ∧
      ∀ B : Formula Leaf, B.map Leaf.written = F → R s B

variable {t}

theorem Writes.mono {R R' : String → Formula Leaf → Prop} {x : Session String}
    {φ : Formula Predicate} (h : t.Writes R x φ) (hR : ∀ s B, R s B → R' s B) :
    t.Writes R' x φ := by
  intro a a' s hrun
  obtain ⟨F, htraverse, hF⟩ := h a a' s hrun
  exact ⟨F, htraverse, fun B hB => hR s B (hF B hB)⟩

/-- What is written of a formula comes from its predicates. -/
theorem leaves_traverse {φ : Formula Predicate} {F : Formula (Predicate × String)}
    {a a' : Allocator} (h : (φ.traverse t.writeLeaf).runFrom a = (.ok F, a')) :
    ∀ x ∈ F.leaves, x.1 ∈ φ.leaves ∧
      ∃ a₁ a₂, (t.writePredicate x.1).runFrom a₁ = (.ok x.2, a₂) := by
  induction φ generalizing F a a' with
  | nothing =>
    obtain ⟨rfl, -⟩ := Session.runFrom_pure_eq_ok.mp h
    exact fun x hx => absurd hx List.not_mem_nil
  | leaf p =>
    -- the run of the whole is one run of the writer, from where the traversal has come to
    obtain ⟨y, a₁, hy, h⟩ := Session.runFrom_bind_eq_ok.mp h
    obtain ⟨rfl, -⟩ := Session.runFrom_pure_eq_ok.mp h
    obtain ⟨s, a₂, hs, hy⟩ := Session.runFrom_bind_eq_ok.mp hy
    obtain ⟨rfl, -⟩ := Session.runFrom_pure_eq_ok.mp hy
    rintro x hx
    obtain rfl := List.mem_singleton.mp hx
    exact ⟨List.mem_singleton_self p, a, a₂, hs⟩
  | negated φ ih =>
    obtain ⟨F', a₁, hF', h⟩ := Session.runFrom_bind_eq_ok.mp h
    obtain ⟨rfl, -⟩ := Session.runFrom_pure_eq_ok.mp h
    intro x hx
    exact ih hF' x hx
  | joined j φ ψ ihφ ihψ =>
    -- the right-hand side is traversed from where the left one has ended
    obtain ⟨F₁, a₁, hF₁, h⟩ := Session.runFrom_bind_eq_ok.mp h
    obtain ⟨F₂, a₂, hF₂, h⟩ := Session.runFrom_bind_eq_ok.mp h
    obtain ⟨rfl, -⟩ := Session.runFrom_pure_eq_ok.mp h
    intro x hx
    rcases List.mem_append.mp hx with hx | hx
    · obtain ⟨hmem, hrun⟩ := ihφ hF₁ x hx
      exact ⟨List.mem_append_left _ hmem, hrun⟩
    · obtain ⟨hmem, hrun⟩ := ihψ hF₂ x hx
      exact ⟨List.mem_append_right _ hmem, hrun⟩

/-- A predicate is written as its text. -/
theorem writes_leaf (p : Predicate) :
    t.Writes (fun s B => ∃ l : Leaf, B = .leaf l ∧ l.text = s) (t.writePredicate p) (.leaf p) := by
  intro a a' s hrun
  refine ⟨.leaf (p, s), ?_, fun B hB => ?_⟩
  · refine Session.runFrom_bind_eq_ok.mpr ⟨(p, s), a', ?_, rfl⟩
    exact Session.runFrom_bind_eq_ok.mpr ⟨s, a', hrun, rfl⟩
  · obtain ⟨l, rfl, hl⟩ := Formula.map_eq_leaf hB
    exact ⟨l, rfl, congrArg Prod.snd hl⟩

/-- What is made of a text that is written. -/
theorem Writes.negated {R R' : String → Formula Leaf → Prop} {x : Session String}
    {φ : Formula Predicate} (h : t.Writes R x φ) {k : String → String}
    (hk : ∀ s B, R s B → R' (k s) (.negated B)) :
    t.Writes R' (x >>= fun s => pure (k s)) (.negated φ) := by
  intro a a' s hrun
  obtain ⟨s', a₁, hs', hrun⟩ := Session.runFrom_bind_eq_ok.mp hrun
  obtain ⟨rfl, rfl⟩ := Session.runFrom_pure_eq_ok.mp hrun
  obtain ⟨F, htraverse, hF⟩ := h a a₁ s' hs'
  refine ⟨.negated F, ?_, fun B hB => ?_⟩
  · exact Session.runFrom_bind_eq_ok.mpr ⟨F, a₁, htraverse, rfl⟩
  · obtain ⟨B', rfl, hB'⟩ := Formula.map_eq_negated hB
    exact hk s' B' (hF B' hB')

/-- Items that are written one after the other write the formulas of the items. -/
theorem writes_mapM {ι : Type} {R : String → Formula Leaf → Prop} {w : ι → Session String}
    {φ : ι → Formula Predicate} {xs : List ι} (h : ∀ x ∈ xs, t.Writes R (w x) (φ x)) (j : Joiner)
    {a a' : Allocator} {ss : List String} (hrun : (xs.mapM w).runFrom a = (.ok ss, a')) :
    ss.length = xs.length ∧
      ∃ F, ((Formula.fold j (xs.map φ)).traverse t.writeLeaf).runFrom a = (.ok F, a') ∧
        ∀ B : Formula Leaf, B.map Leaf.written = F →
          ∃ Bs, B = .fold j Bs ∧ List.Forall₂ R ss Bs := by
  induction xs generalizing a ss with
  | nil =>
    rw [List.mapM_nil, Session.runFrom_pure_eq_ok] at hrun
    obtain ⟨rfl, rfl⟩ := hrun
    exact ⟨rfl, .nothing, rfl, fun B hB => ⟨[], Formula.map_eq_nothing hB, .nil⟩⟩
  | cons x xs ih =>
    rw [List.mapM_cons] at hrun
    obtain ⟨s, a₁, hx, hrun⟩ := Session.runFrom_bind_eq_ok.mp hrun
    obtain ⟨ss', a₂, hxs, hrun⟩ := Session.runFrom_bind_eq_ok.mp hrun
    obtain ⟨rfl, rfl⟩ := Session.runFrom_pure_eq_ok.mp hrun
    -- the first item, and from where it has led the others
    obtain ⟨F, htraverse, hF⟩ := h x List.mem_cons_self a a₁ s hx
    obtain ⟨hlength, F', htraverse', hF'⟩ :=
      ih (fun y hy => h y (List.mem_cons_of_mem x hy)) hxs
    refine ⟨congrArg (· + 1) hlength, .joined j F F', ?_, fun B hB => ?_⟩
    · refine Session.runFrom_bind_eq_ok.mpr ⟨F, a₁, htraverse, ?_⟩
      exact Session.runFrom_bind_eq_ok.mpr ⟨F', a₂, htraverse', rfl⟩
    · obtain ⟨B₁, B₂, rfl, hB₁, hB₂⟩ := Formula.map_eq_joined hB
      obtain ⟨Bs, rfl, hBs⟩ := hF' B₂ hB₂
      exact ⟨B₁ :: Bs, rfl, .cons (hF B₁ hB₁) hBs⟩

/-- What is made of items that are written one after the other. -/
theorem writes_fold {ι : Type} {R R' : String → Formula Leaf → Prop} {w : ι → Session String}
    {φ : ι → Formula Predicate} {xs : List ι} (h : ∀ x ∈ xs, t.Writes R (w x) (φ x)) (j : Joiner)
    {k : List String → String}
    (hk : ∀ ss Bs, ss.length = xs.length → List.Forall₂ R ss Bs → R' (k ss) (.fold j Bs)) :
    t.Writes R' (xs.mapM w >>= fun ss => pure (k ss)) (.fold j (xs.map φ)) := by
  intro a a' s hrun
  obtain ⟨ss, a₁, hss, hrun⟩ := Session.runFrom_bind_eq_ok.mp hrun
  obtain ⟨rfl, rfl⟩ := Session.runFrom_pure_eq_ok.mp hrun
  obtain ⟨hlength, F, htraverse, hF⟩ := writes_mapM h j hss
  refine ⟨F, htraverse, fun B hB => ?_⟩
  obtain ⟨Bs, rfl, hBs⟩ := hF B hB
  exact hk ss Bs hlength hBs

end Target

end SqlCompose

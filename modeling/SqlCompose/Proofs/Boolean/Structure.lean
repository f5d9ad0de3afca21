import SqlCompose.Dialect.MySql
import SqlCompose.Proofs.Boolean.Showing
/-!
# Written conditions keep their structure

`Target.reads_as_formula` says that the text of a condition, with each predicate read as
one token, has the truth value of its formula by the precedence of SQL, whatever the
predicates are worth. The induction is over the layers of the condition: whatever its
operands show, each kind of condition shows its own formula over them
(`Target.writes_formula`).
-/

namespace SqlCompose

/-! ### Predicates that are always some text -/

/-- A session that never writes the empty text. -/
def Session.WritesText (x : Session String) : Prop :=
  ∀ (a a' : Allocator) (s : String), x.runFrom a = (.ok s, a') → s ≠ ""

theorem Session.writesText_pure {s : String} (hs : s ≠ "") : WritesText (pure s) := by
  intro a a' s' hrun
  obtain ⟨rfl, -⟩ := Session.runFrom_pure_eq_ok.mp hrun
  exact hs

theorem Session.writesText_bind {α : Type} {x : Session α} {k : α → Session String}
    (hk : ∀ y, WritesText (k y)) : WritesText (x >>= k) := by
  intro a a' s hrun
  obtain ⟨y, a₁, -, hrun⟩ := Session.runFrom_bind_eq_ok.mp hrun
  exact hk y a₁ a' s hrun

namespace Dialect

variable (d : Dialect)

/-- Only to be in none of no values is written as no text. -/
theorem writesText_listed {op : Operator} {vs : List Value} (h : op = .notIn → vs ≠ [])
    (column : String) : (d.writeListed op column vs).WritesText := by
  unfold writeListed
  dsimp only
  split
  · have hop : (op == .notIn) = false := by
      rw [beq_eq_false_iff_ne]
      exact fun hop => h hop rfl
    rw [hop]
    exact Session.writesText_pure (by decide)
  · exact Session.writesText_bind fun s => Session.writesText_pure (by cases op == .notIn <;> simp)
  · exact Session.writesText_bind fun s => Session.writesText_pure (by simp)

theorem writesText_pair (column : String) (v : HashValue (Session String)) :
    (d.writePair column v).WritesText := by
  unfold writePair
  split
  · exact d.writesText_listed (by simp) column
  · exact Session.writesText_bind fun s => Session.writesText_pure (by simp)
  · exact Session.writesText_pure (by simp)
  · exact Session.writesText_bind fun s => Session.writesText_pure (by simp)

theorem writesText_fits (likeOp : LikeOp) (m : Operand.Matching) (v : Value) :
    (d.writeFits likeOp m v).WritesText :=
  Session.writesText_bind fun s => Session.writesText_pure (by simp)

end Dialect

/-! ### Operators over conditions -/

namespace Dialect

/-- A junction is one text made of those of the operands. -/
theorem writeJunction_eq {op : Operator} {word : String} (hop : op.text = word)
    (operands : List (Operand (Session String) (Session String))) :
    writeJunction op operands =
      operands.mapM (Session.ofOperand op "operands must be conditions") >>= fun ss =>
        pure (if (ss.filter (!·.isEmpty)).isEmpty then ""
          else "(" ++ Text.join (") " ++ word ++ " (") (ss.filter (!·.isEmpty)) ++ ")") := by
  rw [writeJunction, hop]
  refine bind_congr fun ss => ?_
  dsimp only
  split <;> rfl

/-- A negation is a text made of that of the operand. -/
theorem writeNegation_eq (operand : Operand (Session String) (Session String)) :
    writeNegation .not [operand] =
      Session.ofOperand .not "operand must be a condition" operand >>= fun s =>
        pure (if s.isEmpty then s else "NOT" ++ " (" ++ s ++ ")") := by
  refine bind_congr fun s => ?_
  split <;> rfl

/-- A pattern operator is one text made of those of the patterns, if there are any. -/
theorem writeLike_eq (d : Dialect) {op : Operator} {operands : List (Operand Condition Query)}
    {m : Operand.Matching} (hm : Operand.matching op operands = .ok m) (likeOp : LikeOp)
    (f : Condition → Session String) (g : Query → Session String) :
    d.writeLike op likeOp (operands.map (·.map f g)) =
      if m.patterns.isEmpty then pure (Session.emptyList likeOp.negated)
      else m.patterns.mapM (d.writeFits likeOp m) >>= fun ss =>
        pure (Text.join (" " ++ likeOp.joiner.text ++ " ") ss) := by
  rw [writeLike, Operand.matching_map, hm]
  rfl

end Dialect

namespace Target

variable {t : Target}

/-- An operator is written like the condition that is made of it. -/
theorem writePredicate_applied (op : Operator) (operands : List (Operand Condition Query)) :
    t.writePredicate (.applied op operands) = t.writeCondition ⟨.operator op operands⟩ := by
  rw [writeCondition, Condition.fold_mk]
  rfl

/-! ### One layer after the other -/

/-- A predicate shows itself. -/
theorem writes_predicate (p : Predicate) : t.Writes Shows (t.writePredicate p) (.leaf p) := by
  refine (writes_leaf p).mono fun s B h => ?_
  obtain ⟨l, rfl, rfl⟩ := h
  exact Shows.of_leaf l

/-- A predicate that is always some text shows itself as a leaf. -/
theorem writes_text {p : Predicate} (hp : (t.writePredicate p).WritesText) :
    t.Writes Shows.OfLeaf (t.writePredicate p) (.leaf p) := by
  intro a a' s hrun
  obtain ⟨F, htraverse, hF⟩ := writes_leaf p a a' s hrun
  refine ⟨F, htraverse, fun B hB => ?_⟩
  obtain ⟨l, rfl, hl⟩ := hF B hB
  exact ⟨l, rfl, hl, hp a a' s hrun⟩

/-- An operand of a junction or a negation shows its formula. -/
theorem writes_operand (op : Operator) (message : String) {o : Operand Condition Query}
    (ih : ∀ c, o = .condition c → t.Writes Shows (t.writeCondition c) c.formula) :
    t.Writes Shows (Session.ofOperand op message (o.map t.writeCondition t.write))
      (formulaOfOperand op message o) := by
  cases o with
  | condition c => exact ih c rfl
  | expr sql => exact writes_predicate (.raw sql)
  | _ => exact writes_predicate (.misplaced op message)

theorem writes_junction {op : Operator} {j : Joiner} (hop : op.text = j.text)
    {operands : List (Operand Condition Query)}
    (ih : ∀ o ∈ operands, ∀ c, o = .condition c → t.Writes Shows (t.writeCondition c) c.formula) :
    t.Writes Shows (Dialect.writeJunction op (operands.map (·.map t.writeCondition t.write)))
      (.fold j (formulasOfOperands op "operands must be conditions" operands)) := by
  rw [Dialect.writeJunction_eq hop, List.mapM_map, formulasOfOperands_eq]
  exact writes_fold (fun o ho => writes_operand op _ (ih o ho)) j fun ss Bs _ h =>
    Shows.of_junction j h

theorem writes_negation {o : Operand Condition Query}
    (ih : ∀ c, o = .condition c → t.Writes Shows (t.writeCondition c) c.formula) :
    t.Writes Shows (Dialect.writeNegation .not [o.map t.writeCondition t.write])
      (.negated (formulaOfOperand .not "operand must be a condition" o)) := by
  rw [Dialect.writeNegation_eq]
  exact (writes_operand .not _ ih).negated fun s B h => h.of_negation

theorem writes_like {op : Operator} {likeOp : LikeOp} {operands : List (Operand Condition Query)}
    {m : Operand.Matching} (hm : Operand.matching op operands = .ok m)
    (hpatterns : m.patterns ≠ []) :
    t.Writes Shows
      (t.dialect.writeLike op likeOp (operands.map (·.map t.writeCondition t.write)))
      (.fold likeOp.joiner (m.patterns.map fun v => .leaf (.pattern likeOp m v))) := by
  rw [t.dialect.writeLike_eq hm, if_neg (by simpa using hpatterns)]
  refine writes_fold (R := Shows.OfLeaf) (fun v _ => ?_) likeOp.joiner fun ss Bs hlength h => ?_
  · exact writes_text (p := .pattern likeOp m v) (t.dialect.writesText_fits likeOp m v)
  · -- there are as many texts as patterns, so there is at least one
    refine Shows.of_leaves likeOp.joiner h ?_
    rintro rfl
    exact hpatterns (List.length_eq_zero_iff.mp hlength.symm)

theorem writes_hash (pairs : List (String × HashValue Query)) :
    t.Writes Shows (t.dialect.writeHash (pairs.map fun p => (p.1, p.2.map t.write)))
      (.fold .and (pairs.map fun p => .leaf (.pair p.1 p.2))) := by
  -- an empty, a single and a longer list of pairs are one case each
  have hwrite : t.dialect.writeHash (pairs.map fun p => (p.1, p.2.map t.write)) =
      pairs.mapM (fun p => t.dialect.writePair p.1 (p.2.map t.write)) >>= fun ss =>
        pure (Shows.hashText ss) := by
    rw [Dialect.writeHash, List.mapM_map]
    refine bind_congr fun ss => ?_
    rcases ss with _ | ⟨s, _ | ⟨s', rest⟩⟩ <;> rfl
  rw [hwrite]
  refine writes_fold (R := Shows.OfLeaf) (fun p _ => ?_) .and fun ss Bs _ h => Shows.of_hash h
  exact writes_text (p := .pair p.1 p.2) (t.dialect.writesText_pair p.1 _)

/-- **Every condition shows its formula**, from every allocator from which it is written. -/
theorem writes_formula (t : Target) (c : Condition) :
    t.Writes Shows (t.writeCondition c) c.formula := by
  refine (layer_induction (P := fun c => t.Writes Shows (t.writeCondition c) c.formula)
    (Q := fun _ => True) ?_ fun _ _ _ => trivial).1 c
  intro n ihc _
  have hlayer : t.writeCondition ⟨n⟩ =
      t.dialect.writeConditionNode (n.map t.writeCondition t.write) := Condition.fold_mk _ _ n
  rw [hlayer, Condition.formula]
  cases n with
  | raw sql => exact writes_predicate (.raw sql)
  | hash pairs => exact writes_hash pairs
  | operator op operands =>
    have ih : ∀ o ∈ operands, ∀ c, o = .condition c →
        t.Writes Shows (t.writeCondition c) c.formula := by
      rintro o ho c rfl
      exact ihc c (.condition ho)
    -- an operator that is no junction and no negation is a predicate
    have hself : t.Writes Shows
        (t.dialect.writeOperator op (operands.map (·.map t.writeCondition t.write)))
        (.leaf (.applied op operands)) := writes_predicate (.applied op operands)
    cases op with
    | and =>
      rw [formulaOfNode]
      have hword : Operator.and.text = Joiner.and.text := rfl
      exact writes_junction hword ih
    | or =>
      rw [formulaOfNode]
      have hword : Operator.or.text = Joiner.or.text := rfl
      exact writes_junction hword ih
    | not =>
      rw [formulaOfNode]
      split
      · next f hf =>
        rw [formulasOfOperands_eq, List.map_eq_singleton_iff] at hf
        obtain ⟨o, rfl, rfl⟩ := hf
        exact writes_negation (ih o (List.mem_singleton_self o))
      · exact hself
    | like likeOp =>
      rw [formulaOfNode]
      split
      · next m hm =>
        split
        · exact hself
        · next hpatterns => exact writes_like hm (by simpa using hpatterns)
      · exact hself
    | _ =>
      simp only [formulaOfNode]
      exact hself

/-! ### The text read by precedence -/

/-- **Written conditions keep their structure.** When a condition is written, its predicates
can be written from left to right by the same bindings. The text can be cut into tokens
whose leaves are the predicates that are any text, in order. Whichever of the leaves hold,
the tokens read by precedence have the truth value of the formula, and the text is empty
exactly if nothing is left of the formula. -/
theorem reads_as_formula (t : Target) {c : Condition} {a a' : Allocator} {s : String}
    (h : (t.writeCondition c).runFrom a = (.ok s, a')) :
    ∃ F : Formula (Predicate × String),
      (c.formula.traverse t.writeLeaf).runFrom a = (.ok F, a') ∧
      ∀ B : Formula Leaf, B.map Leaf.written = F →
        ∃ ts : List (Token Leaf), Token.writeAll Leaf.text ts = s ∧ Token.leaves ts = B.kept ∧
          ∀ holds : Leaf → Bool, Token.read holds ts = B.truth (Leaf.value holds) ∧
            (B.truth (Leaf.value holds) = none ↔ s = "") := by
  obtain ⟨F, htraverse, hF⟩ := writes_formula t c a a' s h
  refine ⟨F, htraverse, fun B hB => ?_⟩
  rcases hF B hB with ⟨hs, htruth, hkept⟩ | ⟨hs, ts, hwrite, htokens, hwhole⟩
  · refine ⟨[], hs.symm, hkept.symm, fun holds => ⟨?_, iff_of_true (htruth holds) hs⟩⟩
    rw [htruth]
    rfl
  · refine ⟨ts, hwrite, htokens, fun holds => ?_⟩
    obtain ⟨b, htruth, hb⟩ := hwhole holds
    rw [htruth]
    exact ⟨hb.read_eq, iff_of_false (Option.some_ne_none b) hs⟩

/-- A negated `OR` and an `OR` of patterns under an `AND`. -/
theorem reads_as_formula_patterns :
    let c : Condition := ⟨.operator .and [
      .condition ⟨.operator .not [.condition ⟨.operator .or [.expr "x", .expr "", .expr "y"]⟩]⟩,
      .condition ⟨.operator (.like { joiner := .or })
        [.expr "a", .values [.string "p", .string "q"]]⟩]⟩
    let t : Target := { dialect := Dialect.mysql }
    ∃ s a', (t.writeCondition c).runFrom ⟨.empty, 0⟩ = (.ok s, a') ∧
      s = "(NOT ((x) OR (y))) AND (\x60a\x60 LIKE :qp0 OR \x60a\x60 LIKE :qp1)" ∧
      ∃ F : Formula (Predicate × String),
        (c.formula.traverse t.writeLeaf).runFrom ⟨.empty, 0⟩ = (.ok F, a') ∧
        ∀ B : Formula Leaf, B.map Leaf.written = F →
          ∃ ts : List (Token Leaf), Token.writeAll Leaf.text ts = s ∧ Token.leaves ts = B.kept ∧
            ∀ holds : Leaf → Bool, Token.read holds ts = B.truth (Leaf.value holds) ∧
              (B.truth (Leaf.value holds) = none ↔ s = "") := by
  intro c t
  exact ⟨_, _, rfl, by decide +kernel, reads_as_formula t rfl⟩

end Target

end SqlCompose

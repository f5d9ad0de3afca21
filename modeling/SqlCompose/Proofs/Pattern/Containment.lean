import SqlCompose.Dialect.MySql
import SqlCompose.Proofs.Boolean.Structure
import SqlCompose.Proofs.Params.Allocation
import SqlCompose.Proofs.Pattern.Wildcard
import SqlCompose.Proofs.Session.Agreement
import SqlCompose.Proofs.Session.Outcome
/-!
# Pattern conditions ask for containment

A pattern operator with the standard escaping asks of a text which of some values occur in
it. `Target.like_contains` says so of what is written: the text of the condition is cut into
comparisons of the column with placeholders, each placeholder has its pattern in the map
that the session leaves behind, and with these patterns the text is true of exactly those
rows in which the values occur, all or one of them, or fail to occur.

What is bound is a run of bindings (`Dialect.exists_grows_fits`), so each placeholder still
has its own pattern at the end.
-/

namespace SqlCompose

/-! ### What is written for one pattern operator -/

/-- A comparison in the text of a pattern operator. -/
inductive Comparison
  /-- The column against the pattern of a placeholder. -/
  | fits (name : String)
  /-- The comparison of different numbers that stands for an empty list. -/
  | never

namespace Comparison

/-- The comparison as SQL text, `LIKE` or, if it is negated, `NOT LIKE`. -/
def text (d : Dialect) (column : String) (negated : Bool) : Comparison → String
  | fits name => d.column column ++ (if negated then " NOT LIKE " else " LIKE ") ++ name
  | never => "0=1"

/-- Whether a comparison is true of a row whose column has this text, if the placeholders
have these values. -/
def holds (params : Params) (negated : Bool) (row : String) : Comparison → Bool
  | fits name =>
    match params.get? name with
    | some (.string pattern) => Wildcard.fits pattern.toList row.toList != negated
    | _ => false
  | never => false

end Comparison

namespace Dialect

variable (d : Dialect)

/-- A case-sensitive operator is written as the comparison of the column with a pattern. -/
theorem writeFits_of_sensitive {likeOp : LikeOp} (hcase : likeOp.caseInsensitive = false)
    (m : Operand.Matching) (v : Value) (a : Allocator) :
    (d.writeFits likeOp m v).runFrom a =
      (.ok ((Comparison.fits (placeholderName a.free)).text d m.column likeOp.negated),
        (a.bind (pattern m.escape v)).2) := by
  have hword : " " ++ likeOp.keyword ++ " " =
      if likeOp.negated then " NOT LIKE " else " LIKE " := by
    rcases likeOp with ⟨j, _ | _, _⟩ <;> cases hcase <;> rfl
  have htext : (Comparison.fits (placeholderName a.free)).text d m.column likeOp.negated =
      d.column m.column ++ " " ++ likeOp.keyword ++ " " ++ placeholderName a.free := by
    rw [Comparison.text, ← hword]
    simp only [String.append_assoc]
  rw [htext]
  exact Session.runFrom_bind_of_ok (Session.runFrom_slot _ a)

/-- Writing patterns is a run of bindings, with one comparison for each. -/
theorem exists_grows_fits {likeOp : LikeOp} (hcase : likeOp.caseInsensitive = false)
    (m : Operand.Matching) (vs : List Value) (a : Allocator) :
    ∃ ns a', a.Grows a' ns (vs.map (pattern m.escape)) ∧
      (vs.mapM (d.writeFits likeOp m)).runFrom a =
        (.ok (ns.map fun n =>
          (Comparison.fits (placeholderName n)).text d m.column likeOp.negated), a') := by
  induction vs generalizing a with
  | nil => exact ⟨[], a, .refl a, rfl⟩
  | cons v vs ih =>
    obtain ⟨ns, a', hgrows, hrun⟩ := ih (a.bind (pattern m.escape v)).2
    -- one binding for the first pattern, and the run of the others behind it
    refine ⟨a.free :: ns, a', (a.grows_bind _).trans hgrows, ?_⟩
    rw [List.mapM_cons, Session.runFrom_bind_of_ok (d.writeFits_of_sensitive hcase m v a),
      Session.runFrom_bind_of_ok hrun]
    rfl

/-- With the standard escaping, a pattern fits the rows in which its value occurs. -/
theorem holds_of_get? {params : Params} {name : String} {v : Value}
    (h : params.get? name = some (pattern .standard v)) (negated : Bool) (row : String) :
    (Comparison.fits name).holds params negated row =
      (decide (v.display.toList <:+: row.toList) != negated) := by
  have hpattern : pattern .standard v =
      .string ("%" ++ String.ofList (v.display.toList.flatMap Wildcard.escaped) ++ "%") := by
    rw [← Wildcard.apply_standard]
    rfl
  have hchars : ("%" ++ String.ofList (v.display.toList.flatMap Wildcard.escaped) ++ "%").toList =
      '%' :: (v.display.toList.flatMap Wildcard.escaped ++ ['%']) := by
    simp
  rw [Comparison.holds, h, hpattern]
  dsimp only
  rw [hchars]
  congr 1
  rw [Bool.eq_iff_iff, Wildcard.fits_enclosed, decide_eq_true_eq]

end Dialect

namespace Target

variable (t : Target)

/-- The comparisons of a run of bindings under a joiner ask for all or one of the values. -/
theorem verdict_joined {a a' : Allocator} {ns : List Nat} {vs : List Value}
    (hgrows : a.Grows a' ns (vs.map (Dialect.pattern .standard))) (hne : vs ≠ []) (j : Joiner)
    (negated : Bool) (row : String) :
    Token.verdict (Comparison.holds a'.params negated row)
        (Token.joined j (ns.map fun n => [.leaf (.fits (placeholderName n))])) =
      some (j.over (vs.map fun v => decide (v.display.toList <:+: row.toList) != negated)) := by
  have hlength : ns.length = vs.length := by rw [hgrows.length, List.length_map]
  -- every comparison is a factor that is true of the rows in which its value occurs
  have hfactors : List.Forall₂ (Token.IsFactor (Comparison.holds a'.params negated row))
      (ns.map fun n => [.leaf (.fits (placeholderName n))])
      (vs.map fun v => decide (v.display.toList <:+: row.toList) != negated) := by
    rw [List.forall₂_map_left_iff, List.forall₂_map_right_iff, List.forall₂_iff_get]
    refine ⟨hlength, fun i hi hi' => ?_⟩
    have hmem : (placeholderName (ns.get ⟨i, hi⟩), Dialect.pattern .standard (vs.get ⟨i, hi'⟩)) ∈
        (ns.map placeholderName).zip (vs.map (Dialect.pattern .standard)) := by
      refine List.mem_iff_getElem.mpr ⟨i, ?_, ?_⟩
      · simpa using ⟨hi, hi'⟩
      · simp
    rw [← Dialect.holds_of_get? (hgrows.get?_eq hmem) negated row]
    exact Token.isFactor_leaf _
  have hns : (ns.map fun n => [Token.leaf (Comparison.fits (placeholderName n))]) ≠ [] := by
    intro hnil
    rw [List.map_eq_nil_iff.mp hnil] at hlength
    exact hne (List.length_eq_zero_iff.mp hlength.symm)
  exact (Token.isWhole_joined j hfactors hns).verdict_eq

/-- **Pattern operators ask for containment.** From every allocator, a case-sensitive
pattern operator with the standard escaping writes a text that is cut into comparisons of
its column. With the values that the placeholders have behind the session, it is true of
exactly those rows in which the values occur, all or one of them as the joiner says, or fail
to occur. Without values it is never true, or is no text if the operator is negated. -/
theorem like_contains {likeOp : LikeOp} (hcase : likeOp.caseInsensitive = false)
    {operands : List (Operand Condition Query)} {m : Operand.Matching}
    (hm : Operand.matching (.like likeOp) operands = .ok m) (hescape : m.escape = .standard)
    (a : Allocator) :
    ∃ (s : String) (a' : Allocator) (ts : List (Token Comparison)),
      (t.writeCondition ⟨.operator (.like likeOp) operands⟩).runFrom a = (.ok s, a') ∧
      Token.writeAll (Comparison.text t.dialect m.column likeOp.negated) ts = s ∧
      (m.patterns = [] → s = if likeOp.negated then "" else "0=1") ∧
      ∀ row : String,
        Token.verdict (Comparison.holds a'.params likeOp.negated row) ts =
          some (if m.patterns.isEmpty then likeOp.negated
            else likeOp.joiner.over (m.patterns.map fun v =>
              decide (v.display.toList <:+: row.toList) != likeOp.negated)) := by
  rw [← writePredicate_applied, writePredicate, Dialect.writeOperator, t.dialect.writeLike_eq hm]
  cases hpatterns : m.patterns with
  | nil =>
    -- no comparison at all, or the one that nothing satisfies
    cases likeOp.negated with
    | false => exact ⟨"0=1", a, [.leaf .never], rfl, rfl, fun _ => rfl, fun _ => rfl⟩
    | true => exact ⟨"", a, [], rfl, rfl, fun _ => rfl, fun _ => rfl⟩
  | cons v vs =>
    obtain ⟨ns, a', hgrows, hrun⟩ :=
      t.dialect.exists_grows_fits hcase m (v :: vs) a
    refine ⟨Text.join (" " ++ likeOp.joiner.text ++ " ") (ns.map fun n =>
        (Comparison.fits (placeholderName n)).text t.dialect m.column likeOp.negated), a',
      Token.joined likeOp.joiner (ns.map fun n => [.leaf (.fits (placeholderName n))]),
      ?_, ?_, ?_, ?_⟩
    · rw [if_neg (by simp), Session.runFrom_bind_of_ok hrun]
      rfl
    · rw [Token.writeAll_joined, List.map_map]
      refine congrArg _ (List.map_congr_left fun n _ => ?_)
      exact String.append_empty
    · intro hnil
      cases hnil
    · intro row
      rw [hescape] at hgrows
      exact verdict_joined hgrows (List.cons_ne_nil v vs) likeOp.joiner likeOp.negated row

/-- Values that need escaping, one of them with a backslash in front of the closing percent
sign, and the empty value, which every row contains. -/
theorem like_contains_escaped :
    let t : Target := { dialect := Dialect.mysql }
    let likeOp : LikeOp := { joiner := .or, negated := true }
    let vs : List Value := [.string "50%_\\", .string "\\%", .string ""]
    let operands : List (Operand Condition Query) := [.expr "b", .values vs]
    likeOp.caseInsensitive = false ∧
      Operand.matching (.like likeOp) operands = .ok ⟨"b", vs, .standard⟩ ∧
      ∃ (s : String) (a' : Allocator) (ts : List (Token Comparison)),
        (t.writeCondition ⟨.operator (.like likeOp) operands⟩).runFrom (.new .empty) =
          (.ok s, a') ∧
        Token.writeAll (Comparison.text t.dialect "b" true) ts = s ∧
        ∀ row : String, Token.verdict (Comparison.holds a'.params true row) ts =
          some (Joiner.or.over
            (vs.map fun v => decide (v.display.toList <:+: row.toList) != true)) := by
  intro t likeOp vs operands
  have hcase : likeOp.caseInsensitive = false := rfl
  have hm : Operand.matching (.like likeOp) operands = .ok ⟨"b", vs, .standard⟩ := rfl
  obtain ⟨s, a', ts, hrun, hwrite, -, hverdict⟩ := like_contains t hcase hm rfl (.new .empty)
  exact ⟨hcase, hm, s, a', ts, hrun, hwrite, hverdict⟩

end Target

end SqlCompose

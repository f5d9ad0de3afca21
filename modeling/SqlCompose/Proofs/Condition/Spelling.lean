import Mathlib.Logic.Basic
import SqlCompose.Condition.Build
import SqlCompose.Dialect.MySql
import SqlCompose.Session.Statement
/-!
# Spellings of the pattern operators

Two functions read the text of a pattern operator. `LikeOp.parse` takes an optional joiner, an
optional `NOT` and then `LIKE` or `ILIKE`; in upper case these are the texts of `LikeOp.spelling`
and no others (`LikeOp.ofUpper?_eq_some_iff`). `Operator.parse`, which reads the operators of
conditions, knows the texts in a list (`Operator.likeTexts`), and the list has no text that starts
with `AND`, although that joiner may be spelled out.

So the two do not agree: `AND LIKE` is a pattern operator for the one and a comparison for the
other, and is written between column and value as it stands
(`Target.compared_with_explicit_and`). On all other texts they agree, and what they both read as
a pattern operator is written as one (`Target.reads_like`).
-/

namespace SqlCompose

namespace LikeOp

/-! ### The spellings -/

/-- The upper-case text of a pattern operator, with its joiner spelled out or not. -/
def spelling (lead : Option Joiner) (keyword : String) : String :=
  match lead with
  | some j => j.text ++ " " ++ keyword
  | none => keyword

theorem dropLead?_eq_some_iff {lead cs rest : List Char} :
    Text.dropLead? lead cs = some rest ↔ cs = lead ++ rest := by
  rw [Text.dropLead?]
  constructor
  · intro h
    split at h
    · next hlead =>
      obtain ⟨rest', rfl⟩ := List.isPrefixOf_iff_prefix.mp hlead
      rw [List.drop_left] at h
      cases h
      rfl
    · cases h
  · rintro rfl
    rw [if_pos (List.isPrefixOf_iff_prefix.mpr (List.prefix_append _ _)), List.drop_left]

/-- The joiner that is taken is the one in front, and without one it is `AND`. -/
theorem exists_lead_of_takeJoiner {cs rest : List Char} {j : Joiner}
    (h : takeJoiner cs = (j, rest)) :
    ∃ lead : Option Joiner, j = lead.getD .and ∧ cs = (spelling lead (String.ofList rest)).toList := by
  rw [takeJoiner] at h
  split at h
  · next hand =>
    cases h
    exact ⟨some .and, rfl, by simp [spelling, Joiner.text, dropLead?_eq_some_iff.mp hand]⟩
  · split at h
    · next hor =>
      cases h
      exact ⟨some .or, rfl, by simp [spelling, Joiner.text, dropLead?_eq_some_iff.mp hor]⟩
    · cases h
      exact ⟨none, rfl, String.toList_ofList.symm⟩

theorem eq_of_takeNegation {cs rest : List Char} {negated : Bool}
    (h : takeNegation cs = (negated, rest)) :
    cs = (if negated then "NOT ".toList else []) ++ rest := by
  rw [takeNegation] at h
  split at h
  · next hnot =>
    cases h
    exact dropLead?_eq_some_iff.mp hnot
  · cases h
    rfl

/-- **The pattern operators** are the texts that spell one. -/
theorem ofUpper?_eq_some_iff {upper : String} {op : LikeOp} :
    ofUpper? upper = some op ↔
      ∃ lead : Option Joiner, op.joiner = lead.getD .and ∧ upper = spelling lead op.keyword := by
  constructor
  · intro h
    obtain ⟨⟨j, cs⟩, hj⟩ : ∃ p, takeJoiner upper.toList = p := ⟨_, rfl⟩
    obtain ⟨⟨negated, word⟩, hnegated⟩ : ∃ p, takeNegation cs = p := ⟨_, rfl⟩
    obtain ⟨lead, rfl, hupper⟩ := exists_lead_of_takeJoiner hj
    rw [eq_of_takeNegation hnegated, String.toList_inj] at hupper
    simp only [ofUpper?, hj, hnegated] at h
    refine ⟨lead, ?_⟩
    split at h
    · next hword =>
      cases h
      rw [hupper, hword]
      cases negated <;> exact ⟨rfl, rfl⟩
    · split at h
      · next hword =>
        cases h
        rw [hupper, hword]
        cases negated <;> exact ⟨rfl, rfl⟩
      · cases h
  · rintro ⟨lead, hjoiner, rfl⟩
    obtain ⟨joiner, negated, caseInsensitive⟩ := op
    cases hjoiner
    -- twelve texts: the joiner spelled out or not, and the four keywords
    rcases lead with _ | _ | _ <;> cases negated <;> cases caseInsensitive <;> decide

/-- The pattern operator of a text in any letter case. -/
theorem parse_eq_ok_iff {text : String} {op : LikeOp} :
    parse text = .ok op ↔ ofUpper? (Text.upper text) = some op := by
  unfold parse
  cases ofUpper? (Text.upper text) <;> simp

end LikeOp

namespace Operator

/-- Whether the text of an operator starts with `AND` and a blank, in any letter case. -/
def HasExplicitAnd (text : String) : Prop := "AND ".toList <+: (Text.upper text).toList

instance (text : String) : Decidable (HasExplicitAnd text) :=
  inferInstanceAs (Decidable (_ <+: _))

/-- A pattern operator with `AND` spelled out is read as a comparison, and any other as what it
is. -/
theorem ofUpper_spelling {lead : Option Joiner} {op : LikeOp} (h : op.joiner = lead.getD .and) :
    ofUpper (LikeOp.spelling lead op.keyword) =
      if lead = some .and then .compare (LikeOp.spelling lead op.keyword) else .like op := by
  obtain ⟨joiner, negated, caseInsensitive⟩ := op
  cases h
  rcases lead with _ | _ | _ <;> cases negated <;> cases caseInsensitive <;> decide

theorem explicitAnd_spelling {lead : Option Joiner} {op : LikeOp} :
    "AND ".toList <+: (LikeOp.spelling lead op.keyword).toList ↔ lead = some .and := by
  obtain ⟨joiner, negated, caseInsensitive⟩ := op
  rcases lead with _ | _ | _ <;> cases joiner <;> cases negated <;> cases caseInsensitive <;>
    decide

/-- Texts of the list are the only ones that are read as pattern operators. -/
theorem ofUpper?_of_ofUpper_eq_like {upper : String} {op : LikeOp} (h : ofUpper upper = .like op) :
    LikeOp.ofUpper? upper = some op := by
  unfold ofUpper at h
  -- nine texts name operators of other kinds
  iterate 9
    obtain ⟨-, h⟩ := (ite_eq_iff.mp h).resolve_left fun hother => nomatch hother.2
  split at h
  · split at h
    · next op' hop =>
      cases h
      exact hop
    · cases h
  · cases h

theorem parse_of_spelled {text : String} {op : LikeOp} (h : LikeOp.parse text = .ok op) :
    (¬HasExplicitAnd text → parse text = .like op) ∧
      (HasExplicitAnd text → parse text = .compare (Text.upper text)) := by
  obtain ⟨lead, hjoiner, hspelling⟩ := LikeOp.ofUpper?_eq_some_iff.mp (LikeOp.parse_eq_ok_iff.mp h)
  rw [HasExplicitAnd, parse, hspelling, ofUpper_spelling hjoiner, explicitAnd_spelling]
  exact ⟨fun hlead => if_neg hlead, fun hlead => if_pos hlead⟩

/-- **The two readings agree** but for texts with `AND` spelled out. -/
theorem parse_eq_like_iff {text : String} {op : LikeOp} :
    parse text = .like op ↔ LikeOp.parse text = .ok op ∧ ¬HasExplicitAnd text := by
  constructor
  · intro h
    have hop : LikeOp.parse text = .ok op :=
      LikeOp.parse_eq_ok_iff.mpr (ofUpper?_of_ofUpper_eq_like h)
    refine ⟨hop, fun hand => ?_⟩
    rw [(parse_of_spelled hop).2 hand] at h
    cases h
  · rintro ⟨hop, hand⟩
    exact (parse_of_spelled hop).1 hand

end Operator

namespace Target

/-- **Pattern operators by their text.** A text names a pattern operator of a condition if it
spells that operator and `AND` is not spelled out in it, and then the condition is written as one
on patterns, with the joiner, the negation and the case of the text. If `AND` is spelled out, the
condition is written as a comparison. -/
theorem reads_like (t : Target) (text : String) (operands : List (Operand Condition Query)) :
    (∀ op, Operator.parse text = .like op ↔
      LikeOp.parse text = .ok op ∧ ¬Operator.HasExplicitAnd text) ∧
    ∀ op, LikeOp.parse text = .ok op →
      (¬Operator.HasExplicitAnd text →
        t.writeCondition (Condition.op text operands) =
          t.dialect.writeLike (.like op) op (operands.map (·.map t.writeCondition t.write))) ∧
      (Operator.HasExplicitAnd text →
        t.writeCondition (Condition.op text operands) =
          t.dialect.writeComparison (.compare (Text.upper text))
            (operands.map (·.map t.writeCondition t.write))) := by
  have hwrite : t.writeCondition (Condition.op text operands) =
      t.dialect.writeOperator (Operator.parse text)
        (operands.map (·.map t.writeCondition t.write)) := by
    rw [Condition.op, Condition.operator, writeCondition, Condition.fold_mk]
    rfl
  refine ⟨fun op => Operator.parse_eq_like_iff, fun op hop => ⟨fun hand => ?_, fun hand => ?_⟩⟩
  · rw [hwrite, (Operator.parse_of_spelled hop).1 hand]
    rfl
  · rw [hwrite, (Operator.parse_of_spelled hop).2 hand]
    rfl

/-- The text `or not ilike` names a pattern operator, and a condition with it is written as one. -/
theorem reads_like_or_not :
    let t : Target := { dialect := Dialect.mysql }
    let op : LikeOp := ⟨.or, true, true⟩
    let operands : List (Operand Condition Query) := [.expr "a", .values [.int 1, .int 2]]
    LikeOp.parse "or not ilike" = .ok op ∧ ¬Operator.HasExplicitAnd "or not ilike" ∧
      t.writeCondition (Condition.op "or not ilike" operands) =
        t.dialect.writeLike (.like op) op (operands.map (·.map t.writeCondition t.write)) ∧
      (t.build ⟨{ filter := some (Condition.op "or not ilike" operands) }⟩ {}).toOption.map (·.sql) =
        some "SELECT * WHERE \x60a\x60 NOT ILIKE :qp0 OR \x60a\x60 NOT ILIKE :qp1" := by
  intro t op operands
  have hop : LikeOp.parse "or not ilike" = .ok op := rfl
  have hand : ¬Operator.HasExplicitAnd "or not ilike" := by decide +kernel
  exact ⟨hop, hand, ((reads_like t "or not ilike" operands).2 op hop).1 hand, by decide +kernel⟩

/-- **With `AND` spelled out** a pattern operator is none: the text is one of the family, but a
condition with it is written as a comparison. -/
theorem compared_with_explicit_and :
    LikeOp.parse "and like" = .ok {} ∧ Operator.parse "and like" = .compare "AND LIKE" ∧
      (({ dialect := Dialect.mysql } : Target).build
        ⟨{ filter := some (Condition.op "and like" [.expr "a", .value (.string "x")]) }⟩
          {}).toOption.map (·.sql) =
        some "SELECT * WHERE \x60a\x60 AND LIKE :qp0" :=
  ⟨rfl, by decide +kernel, by decide +kernel⟩

end Target

end SqlCompose

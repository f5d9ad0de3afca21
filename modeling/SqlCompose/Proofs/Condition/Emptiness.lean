import SqlCompose.Proofs.Session.Vacuity
/-!
# Visibly empty conditions

`Condition.isEmpty` looks at a condition from outside: a text without characters and a hash
condition without pairs are empty, and a condition with an operator never is. What a condition is
written as is decided further inside, since operands without a restriction are left out at every
level.

So the two agree on texts and on hash conditions, and a condition that is visibly empty always
comes to no text (`Target.runFrom_of_isEmpty`). They part on the conditions with an operator whose
operands all drop out: `Condition.isEmpty_eq` says that visible emptiness is vacuity without an
operator, and by `Target.eq_empty_iff_vacuous` vacuity is what the text shows.
-/

namespace SqlCompose

namespace Condition

/-- Whether the outermost layer of a condition is an operator with its operands. -/
def hasOperator (c : Condition) : Bool :=
  match c.node with
  | .operator _ _ => true
  | _ => false

/-- **Visibly empty** are the vacuous conditions without an operator. -/
theorem isEmpty_eq (c : Condition) : c.isEmpty = (c.vacuous && !c.hasOperator) := by
  obtain ⟨n⟩ := c
  rw [vacuous_mk]
  cases n with
  | raw sql => exact (Bool.and_true _).symm
  | hash pairs =>
    change pairs.isEmpty = ((pairs.map _).isEmpty && true)
    rw [List.isEmpty_map, Bool.and_true]
  | operator op operands => exact (Bool.and_false _).symm

/-- The outermost layer of a visibly empty condition. -/
theorem eq_of_isEmpty {c : Condition} (h : c.isEmpty = true) : c = .raw "" ∨ c = .hash [] := by
  obtain ⟨n⟩ := c
  cases n with
  | raw sql =>
    obtain rfl := String.isEmpty_iff.mp h
    exact Or.inl rfl
  | hash pairs =>
    obtain rfl := List.isEmpty_iff.mp h
    exact Or.inr rfl
  | operator op operands => cases h

end Condition

namespace Target

variable (t : Target)

/-- A visibly empty condition is written as no text, and nothing is bound. -/
theorem runFrom_of_isEmpty {c : Condition} (h : c.isEmpty = true) (a : Allocator) :
    (t.writeCondition c).runFrom a = (.ok "", a) := by
  obtain rfl | rfl := Condition.eq_of_isEmpty h
  · rfl
  · rfl

/-- **What visible emptiness tells.** A visibly empty condition is written as no text. For any
condition that is written, the two say the same, unless it is a vacuous condition with an
operator, which is no text although it is not visibly empty. -/
theorem isEmpty_tells (c : Condition) :
    (c.isEmpty = true → ∀ a, (t.writeCondition c).runFrom a = (.ok "", a)) ∧
    ∀ (a a' : Allocator) (s : String), (t.writeCondition c).runFrom a = (.ok s, a') →
      ((c.isEmpty = true ↔ s = "") ↔ ¬ (c.hasOperator = true ∧ c.vacuous = true)) := by
  refine ⟨fun h a => t.runFrom_of_isEmpty h a, ?_⟩
  intro a a' s hrun
  rw [eq_empty_iff_vacuous hrun, Condition.isEmpty_eq]
  cases c.vacuous <;> cases c.hasOperator <;> decide

/-- A restriction behind operators, among operands that drop out. -/
theorem isEmpty_tells_restriction :
    let t : Target := { dialect := Dialect.mysql }
    let c : Condition := .and [.raw "", .not (.or [.hash [], .isIn "a" []])]
    ((Condition.hash []).isEmpty = true ∧
      (t.writeCondition (.hash [])).runFrom (.new .empty) = (.ok "", .new .empty)) ∧
    ∃ s a', (t.writeCondition c).runFrom (.new .empty) = (.ok s, a') ∧ s = "(NOT ((0=1)))" ∧
      (c.isEmpty = true ↔ s = "") := by
  intro t c
  refine ⟨⟨rfl, (isEmpty_tells t (.hash [])).1 rfl _⟩, ?_⟩
  obtain ⟨a', hrun⟩ := Session.exists_runFrom_eq_ok (a := .new .empty) (x := t.writeCondition c)
    (z := "(NOT ((0=1)))") (by decide +kernel)
  exact ⟨_, a', hrun, rfl, ((isEmpty_tells t c).2 _ a' _ hrun).mpr (by decide)⟩

/-- A junction whose operands are visibly empty is no text, but not visibly empty itself. -/
theorem junction_of_nothing_unseen :
    let t : Target := { dialect := Dialect.mysql }
    let c : Condition := .or [.hash [], .raw ""]
    (t.writeCondition c).runFrom (.new .empty) = (.ok "", .new .empty) ∧
      ¬ (c.isEmpty = true ↔ "" = "") := by
  intro t c
  refine ⟨rfl, ?_⟩
  intro h
  exact absurd (h.mpr rfl) (by decide)

end Target

end SqlCompose

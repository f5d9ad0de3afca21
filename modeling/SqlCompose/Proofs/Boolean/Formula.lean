import Mathlib.Data.List.Basic
import SqlCompose.Condition.Operator
/-!
# Boolean formulas

What a condition says, apart from how it is written: leaves that are true or false, put
together by `AND`, `OR` and `NOT`. A leaf may be absent, because a condition can turn
into no text at all. What is absent is dropped from the conjunction or disjunction that
it stands in, and where nothing is left, the whole is absent (`Formula.truth_fold`). This
has no influence on the truth value if all that is dropped is a unit of its joiner
(`Formula.truth_of_dropsUnits`).
-/

namespace SqlCompose

/-- The joiner on truth values. -/
def Joiner.apply : Joiner → Bool → Bool → Bool
  | and, x, y => x && y
  | or, x, y => x || y

/-- Whether all of some truth values are true, or one of them. -/
def Joiner.over (j : Joiner) (xs : List Bool) : Bool :=
  match j with
  | and => xs.all id
  | or => xs.any id

theorem Joiner.over_cons_cons (j : Joiner) (x y : Bool) (xs : List Bool) :
    j.over (x :: y :: xs) = j.over (j.apply x y :: xs) := by
  cases j <;> simp [Joiner.over, Joiner.apply, Bool.and_assoc, Bool.or_assoc]

/-- Truth values can be taken in one after the other. -/
theorem Joiner.foldl_apply (j : Joiner) (acc : Bool) (bs : List Bool) :
    bs.foldl j.apply acc = j.over (acc :: bs) := by
  induction bs generalizing acc with
  | nil => cases j <;> simp [Joiner.over]
  | cons b bs ih => rw [List.foldl_cons, ih, Joiner.over_cons_cons]

/-- A formula over leaves. -/
inductive Formula (α : Type)
  /-- No restriction. -/
  | nothing
  | leaf (a : α)
  | negated (f : Formula α)
  | joined (j : Joiner) (f g : Formula α)

namespace Formula

variable {α β : Type}

/-- Formulas under one joiner. -/
def fold (j : Joiner) (fs : List (Formula α)) : Formula α :=
  fs.foldr (joined j) nothing

/-- The same formula over other leaves. -/
def map (h : α → β) : Formula α → Formula β
  | nothing => nothing
  | leaf a => leaf (h a)
  | negated f => negated (f.map h)
  | joined j f g => joined j (f.map h) (g.map h)

/-- The formula whose leaves come out of computations, which run from left to right. -/
def traverse {m : Type → Type} [Monad m] (k : α → m β) : Formula α → m (Formula β)
  | nothing => pure nothing
  | leaf a => do
    let b ← k a
    pure (leaf b)
  | negated f => do
    let f ← f.traverse k
    pure (negated f)
  | joined j f g => do
    let f ← f.traverse k
    let g ← g.traverse k
    pure (joined j f g)

/-- The leaves, from left to right. -/
def leaves : Formula α → List α
  | nothing => []
  | leaf a => [a]
  | negated f => f.leaves
  | joined _ f g => f.leaves ++ g.leaves

/-- Two truth values under a joiner; an absent one is dropped. -/
def combine (j : Joiner) : Option Bool → Option Bool → Option Bool
  | some x, some y => some (j.apply x y)
  | some x, none => some x
  | none, y => y

/-- The truth value of a formula, if the leaves have these; none, if nothing is left. -/
def truth (v : α → Option Bool) : Formula α → Option Bool
  | nothing => none
  | leaf a => v a
  | negated f => (f.truth v).map (!·)
  | joined j f g => combine j (f.truth v) (g.truth v)

/-- **Dropping what is absent.** A joiner is over the truth values of the formulas that
have one, and over none if there are none. -/
theorem truth_fold (v : α → Option Bool) (j : Joiner) (fs : List (Formula α)) :
    (fold j fs).truth v =
      match fs.filterMap (truth v) with
      | [] => none
      | xs => some (j.over xs) := by
  induction fs with
  | nil => rfl
  | cons f fs ih =>
    have hcons : (fold j (f :: fs)).truth v = combine j (f.truth v) ((fold j fs).truth v) := rfl
    rw [hcons, ih]
    cases hf : f.truth v with
    | none =>
      -- an absent formula drops out
      rw [List.filterMap_cons_none hf]
      rfl
    | some x =>
      rw [List.filterMap_cons_some hf]
      -- a formula that is left is joined to those behind it, if there are any
      cases fs.filterMap (truth v) with
      | nil => cases j <;> simp [combine, Joiner.over]
      | cons y ys => cases j <;> simp [combine, Joiner.over, Joiner.apply]

theorem leaves_fold (j : Joiner) (fs : List (Formula α)) :
    (fold j fs).leaves = fs.flatMap leaves := by
  induction fs with
  | nil => rfl
  | cons f fs ih => exact congrArg (f.leaves ++ ·) ih

/-! ### Dropping without influence -/

variable {v : α → Bool} {w : α → Option Bool}

/-- **Only units are dropped**: if leaves have the truth values `v` but only those with a value
`w` are kept, what is dropped from a junction that keeps something else has no influence on
it. -/
def DropsUnits (v : α → Bool) (w : α → Option Bool) : Formula α → Prop
  | nothing => True
  | leaf _ => True
  | negated f => f.DropsUnits v w
  | joined j f g =>
    f.DropsUnits v w ∧ g.DropsUnits v w ∧
      (f.truth w = none → g.truth w ≠ none → ∀ b ∈ f.truth (some ∘ v), b = j.over []) ∧
      (g.truth w = none → f.truth w ≠ none → ∀ b ∈ g.truth (some ∘ v), b = j.over [])

theorem combine_unit_right {j : Joiner} {x : Bool} {y : Option Bool} (h : ∀ b ∈ y, b = j.over []) :
    combine j (some x) y = some x := by
  cases y with
  | none => rfl
  | some y =>
    rw [h y rfl]
    cases j <;> simp [combine, Joiner.apply, Joiner.over]

theorem combine_unit_left {j : Joiner} {x : Bool} {y : Option Bool} (h : ∀ b ∈ y, b = j.over []) :
    combine j y (some x) = some x := by
  cases y with
  | none => rfl
  | some y =>
    rw [h y rfl]
    cases j <;> simp [combine, Joiner.apply, Joiner.over]

/-- What is kept has its own truth value if only units are dropped. -/
theorem truth_of_dropsUnits (hw : ∀ a b, w a = some b → v a = b) {f : Formula α}
    (hf : f.DropsUnits v w) {b : Bool} (h : f.truth w = some b) : f.truth (some ∘ v) = some b := by
  induction f generalizing b with
  | nothing => cases h
  | leaf a => exact congrArg some (hw a b h)
  | negated f ih =>
    obtain ⟨x, hx, rfl⟩ := Option.map_eq_some_iff.mp h
    rw [truth, ih hf hx]
    rfl
  | joined j f g ihf ihg =>
    obtain ⟨hdropsf, hdropsg, hunitf, hunitg⟩ := hf
    rw [truth] at h ⊢
    rcases hx : f.truth w with _ | x <;> rcases hy : g.truth w with _ | y
    · rw [hx, hy] at h
      cases h
    · -- the first operand is dropped
      rw [hx, hy] at h
      cases h
      rw [ihg hdropsg hy]
      exact combine_unit_left (hunitf hx (by simp [hy]))
    · -- the second one is
      rw [hx, hy] at h
      cases h
      rw [ihf hdropsf hx]
      exact combine_unit_right (hunitg hy (by simp [hx]))
    · rw [hx, hy] at h
      rw [ihf hdropsf hx, ihg hdropsg hy]
      exact h

/-! ### What a formula over other leaves looks like -/

variable {h : α → β} {f : Formula α}

theorem leaves_map (h : α → β) (f : Formula α) : (f.map h).leaves = f.leaves.map h := by
  induction f with
  | nothing => rfl
  | leaf a => rfl
  | negated f ih => exact ih
  | joined j f g ihf ihg => rw [map, leaves, leaves, ihf, ihg, List.map_append]

theorem map_eq_nothing (hf : f.map h = nothing) : f = nothing := by
  cases f with
  | nothing => rfl
  | _ => cases hf

theorem map_eq_leaf {b : β} (hf : f.map h = leaf b) : ∃ a, f = leaf a ∧ h a = b := by
  cases f with
  | leaf a =>
    cases hf
    exact ⟨a, rfl, rfl⟩
  | _ => cases hf

theorem map_eq_negated {g : Formula β} (hf : f.map h = negated g) :
    ∃ f', f = negated f' ∧ f'.map h = g := by
  cases f with
  | negated f' =>
    cases hf
    exact ⟨f', rfl, rfl⟩
  | _ => cases hf

theorem map_eq_joined {j : Joiner} {g g' : Formula β} (hf : f.map h = joined j g g') :
    ∃ f₁ f₂, f = joined j f₁ f₂ ∧ f₁.map h = g ∧ f₂.map h = g' := by
  cases f with
  | joined j' f₁ f₂ =>
    cases hf
    exact ⟨f₁, f₂, rfl, rfl, rfl⟩
  | _ => cases hf

end Formula

end SqlCompose

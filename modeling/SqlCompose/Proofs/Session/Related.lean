import Mathlib.Data.List.Forall2
import SqlCompose.Proofs.Session.Outcome
/-!
# Related sessions

Two sessions are related if from every allocator they bind the same values to the same
placeholders and either fail with the same error or come to results in a given relation
(`Session.Related`). Sessions that are put together from related parts in the same way are
related.
-/

namespace SqlCompose.Session

variable {α β γ δ : Type}

/-- **Related sessions** leave the same allocator behind and fail alike, and what they come to
is related. -/
def Related (R : α → β → Prop) (x : Session α) (y : Session β) : Prop :=
  ∀ a, ∃ a',
    (∃ e, x.runFrom a = (.error e, a') ∧ y.runFrom a = (.error e, a')) ∨
      ∃ z w, R z w ∧ x.runFrom a = (.ok z, a') ∧ y.runFrom a = (.ok w, a')

variable {R : α → β → Prop} {S : γ → δ → Prop} {x : Session α} {y : Session β}
  {k : α → Session γ} {l : β → Session δ}

theorem related_pure {z : α} {w : β} (h : R z w) : Related R (pure z) (pure w) :=
  fun a => ⟨a, Or.inr ⟨z, w, h, rfl, rfl⟩⟩

theorem related_throw (e : Error) : Related R (throw e) (throw e) :=
  fun a => ⟨a, Or.inl ⟨e, rfl, rfl⟩⟩

/-- One part behind another. -/
theorem Related.bind (h : Related R x y) (hk : ∀ z w, R z w → Related S (k z) (l w)) :
    Related S (x >>= k) (y >>= l) := by
  intro a
  obtain ⟨a', ⟨e, hx, hy⟩ | ⟨z, w, hzw, hx, hy⟩⟩ := h a
  · -- neither second part runs
    exact ⟨a', Or.inl ⟨e, runFrom_bind_of_error hx, runFrom_bind_of_error hy⟩⟩
  · rw [runFrom_bind_of_ok hx, runFrom_bind_of_ok hy]
    exact hk z w hzw a'

/-- What is made of related results. -/
theorem Related.map (h : Related R x y) {F : α → γ} {G : β → δ}
    (hFG : ∀ z w, R z w → S (F z) (G w)) :
    Related S (x >>= fun z => pure (F z)) (y >>= fun w => pure (G w)) :=
  h.bind fun z w hzw => related_pure (hFG z w hzw)

/-- What was read from operands is the same on both sides. -/
theorem related_lift_bind (x : Except Error α) {k : α → Session γ} {l : α → Session δ}
    (h : ∀ z, x = .ok z → Related S (k z) (l z)) : Related S (lift x >>= k) (lift x >>= l) := by
  intro a
  cases x with
  | error e => exact ⟨a, Or.inl ⟨e, rfl, rfl⟩⟩
  | ok z => exact h z rfl a

/-- A refusal is the same on both sides. -/
theorem related_lift_error (e : Error) : Related R (lift (.error e)) (lift (.error e)) :=
  fun a => ⟨a, Or.inl ⟨e, rfl, rfl⟩⟩

/-- A value is bound to the same placeholder. -/
theorem related_slot {R : String → String → Prop}
    (h : ∀ n, R (placeholderName n) (placeholderName n)) (v : Value) :
    Related R (slot v) (slot v) :=
  fun a => ⟨(a.bind v).2, Or.inr ⟨_, _, h a.free, runFrom_slot v a, runFrom_slot v a⟩⟩

/-- Sessions one behind the other. -/
theorem related_mapM {ι : Type} {v : ι → Session α} {w : ι → Session β} {xs : List ι}
    (h : ∀ x ∈ xs, Related R (v x) (w x)) :
    Related (List.Forall₂ R) (xs.mapM v) (xs.mapM w) := by
  induction xs with
  | nil => exact related_pure .nil
  | cons x xs ih =>
    rw [List.mapM_cons, List.mapM_cons]
    refine (h x List.mem_cons_self).bind fun z z' hz => ?_
    refine (ih fun x' hx' => h x' (List.mem_cons_of_mem x hx')).map fun zs zs' hzs => ?_
    exact .cons hz hzs

end SqlCompose.Session

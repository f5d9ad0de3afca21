import SqlCompose.Session.Condition
/-!
# Outcomes of sessions

What a session comes to is known from what its parts come to: the second part starts where
the first has led, and does not run at all behind an error. So a session never fails whose
parts never fail (`Succeeds`). Values are written by sessions like this.
-/

namespace SqlCompose

namespace Session

variable {α β : Type} {x : Session α} {k : α → Session β} {a a' a'' : Allocator}

theorem runFrom_bind_of_ok {z : α} (h : x.runFrom a = (.ok z, a')) :
    (x >>= k).runFrom a = (k z).runFrom a' := by
  change ExceptT.bindCont k (x a).1 (x a).2 = k z a'
  rw [show x a = (.ok z, a') from h]
  rfl

theorem runFrom_bind_of_error {e : Error} (h : x.runFrom a = (.error e, a')) :
    (x >>= k).runFrom a = (.error e, a') := by
  change ExceptT.bindCont k (x a).1 (x a).2 = (.error e, a')
  rw [show x a = (.error e, a') from h]
  rfl

/-- Behind an error the handler goes on from where the error has led. -/
theorem runFrom_tryCatch_of_error {e : Error} (handler : Error → Session α)
    (h : x.runFrom a = (.error e, a')) :
    (tryCatch x handler).runFrom a = (handler e).runFrom a' := by
  have hx : StateT.run (ExceptT.run x) a = (.error e, a') := h
  unfold runFrom
  rw [ExceptT.run_tryCatch, StateT.run_bind, hx]
  rfl

/-- What runs to an end runs to an end in both parts. -/
theorem runFrom_bind_eq_ok {y : β} :
    (x >>= k).runFrom a = (.ok y, a'') ↔
      ∃ z a', x.runFrom a = (.ok z, a') ∧ (k z).runFrom a' = (.ok y, a'') := by
  constructor
  · intro h
    rcases hx : x.runFrom a with ⟨e | z, a'⟩
    · -- the second part runs only if the first has not failed
      rw [runFrom_bind_of_error hx] at h
      cases h
    · rw [runFrom_bind_of_ok hx] at h
      exact ⟨z, a', rfl, h⟩
  · rintro ⟨z, a', hx, hk⟩
    rw [runFrom_bind_of_ok hx, hk]

theorem runFrom_pure (z : α) (a : Allocator) : (pure z : Session α).runFrom a = (.ok z, a) := rfl

theorem runFrom_pure_eq_ok {y z : α} :
    (pure z : Session α).runFrom a = (.ok y, a') ↔ z = y ∧ a = a' := by
  rw [runFrom_pure, Prod.mk.injEq, Except.ok.injEq]

/-- A session that comes to something leaves some allocator behind. -/
theorem exists_runFrom_eq_ok {z : α} (h : (x.runFrom a).1.toOption = some z) :
    ∃ a', x.runFrom a = (.ok z, a') := by
  rcases hx : x.runFrom a with ⟨e | z', a'⟩
  · rw [hx] at h
    cases h
  · rw [hx] at h
    cases h
    exact ⟨a', rfl⟩

/-- A value is bound to the first free placeholder. -/
theorem runFrom_slot (v : Value) (a : Allocator) :
    (slot v).runFrom a = (.ok (a.bind v).1, (a.bind v).2) := rfl

/-! ### Sessions that never fail -/

/-- A session that runs to an end from every allocator. -/
def Succeeds (x : Session α) : Prop := ∀ a, ∃ z a', x.runFrom a = (.ok z, a')

theorem succeeds_pure (z : α) : Succeeds (pure z) := fun a => ⟨z, a, rfl⟩

theorem succeeds_slot (v : Value) : (slot v).Succeeds := fun a => ⟨_, _, runFrom_slot v a⟩

theorem Succeeds.bind (hx : x.Succeeds) (hk : ∀ z, (k z).Succeeds) : (x >>= k).Succeeds := by
  intro a
  obtain ⟨z, a', hz⟩ := hx a
  -- the second part starts where the first has led
  rw [runFrom_bind_of_ok hz]
  exact hk z a'

theorem Succeeds.mapM {ι : Type} {w : ι → Session α} {xs : List ι}
    (h : ∀ x ∈ xs, (w x).Succeeds) : (xs.mapM w).Succeeds := by
  induction xs with
  | nil => exact succeeds_pure []
  | cons x xs ih =>
    rw [List.mapM_cons]
    refine (h x List.mem_cons_self).bind fun z => ?_
    exact (ih fun y hy => h y (List.mem_cons_of_mem x hy)).bind fun zs => succeeds_pure _

/-! ### Values -/

theorem succeeds_entry (v : Value) : (entry v).Succeeds := by
  unfold entry
  split
  · exact succeeds_pure _
  · exact succeeds_slot v

theorem succeeds_tuple (names : List String) (row : List (String × Value)) :
    (tuple names row).Succeeds :=
  (Succeeds.mapM fun _ _ => succeeds_entry _).bind fun _ => succeeds_pure _

end Session

namespace Dialect

open Session

variable (d : Dialect)

theorem succeeds_writeListed (op : Operator) (column : String) (vs : List Value) :
    (d.writeListed op column vs).Succeeds := by
  unfold writeListed
  dsimp only
  split
  · exact succeeds_pure _
  · exact (succeeds_entry _).bind fun _ => succeeds_pure _
  · exact (Succeeds.mapM fun v _ => succeeds_entry v).bind fun _ => succeeds_pure _

theorem succeeds_writeInRows (op : Operator) (names : List String)
    (rows : List (List (String × Value))) : (d.writeInRows op names rows).Succeeds :=
  (Succeeds.mapM fun row _ => succeeds_tuple names row).bind fun _ => succeeds_pure _

theorem succeeds_writeFits (likeOp : LikeOp) (m : Operand.Matching) (v : Value) :
    (d.writeFits likeOp m v).Succeeds :=
  (succeeds_slot _).bind fun _ => succeeds_pure _

end Dialect

end SqlCompose

import SqlCompose.Dialect.MySql
import SqlCompose.Proofs.Session.Outcome
import SqlCompose.Session.Statement
/-!
# Refused operators

An operator reads all its operands before it binds the first value. So if no operand is a
condition or a query, which bind values of their own, an operator that is refused has bound
nothing.

A session refuses first (`Session.RefusesFirst`) if it leaves the allocator as it was whenever it
fails. So does a session that never fails, and one that binds nothing at all; and a session that
refuses first may stand behind one that binds nothing (`Session.BindsNothing.bind_refusesFirst`).
Every operator is of this form: what is read from the operands comes first and binds nothing, and
what is written of it never fails. `Target.refused_unbound` is the theorem on conditions.
-/

namespace SqlCompose

namespace Session

variable {α β : Type} {x : Session α} {k : α → Session β}

/-- **A session that refuses first** has left the allocator as it was if it fails. -/
def RefusesFirst (x : Session α) : Prop :=
  ∀ a a' e, x.runFrom a = (.error e, a') → a' = a

/-- **A session that binds nothing** leaves the allocator as it was, whatever it comes to. -/
def BindsNothing (x : Session α) : Prop := ∀ a, (x.runFrom a).2 = a

theorem bindsNothing_pure (z : α) : BindsNothing (pure z) := fun _ => rfl

theorem bindsNothing_lift (x : Except Error α) : BindsNothing (lift x) := fun _ => rfl

theorem BindsNothing.bind (hx : x.BindsNothing) (hk : ∀ z, (k z).BindsNothing) :
    (x >>= k).BindsNothing := by
  intro a
  have ha := hx a
  rcases hrun : x.runFrom a with ⟨e | z, a'⟩
  · rw [runFrom_bind_of_error hrun]
    rwa [hrun] at ha
  · rw [hrun] at ha
    rw [runFrom_bind_of_ok hrun, hk z a']
    exact ha

theorem BindsNothing.mapM {ι : Type} {w : ι → Session α} {xs : List ι}
    (h : ∀ x ∈ xs, (w x).BindsNothing) : (xs.mapM w).BindsNothing := by
  induction xs with
  | nil => exact bindsNothing_pure []
  | cons x xs ih =>
    rw [List.mapM_cons]
    refine (h x List.mem_cons_self).bind fun z => ?_
    exact (ih fun y hy => h y (List.mem_cons_of_mem x hy)).bind fun zs => bindsNothing_pure _

theorem BindsNothing.refusesFirst (hx : x.BindsNothing) : x.RefusesFirst := by
  intro a a' e h
  rw [← hx a, h]

theorem Succeeds.refusesFirst (hx : x.Succeeds) : x.RefusesFirst := by
  intro a a' e h
  obtain ⟨z, a'', hz⟩ := hx a
  rw [hz] at h
  cases h

/-- Nothing has been bound either if the second part refuses. -/
theorem BindsNothing.bind_refusesFirst (hx : x.BindsNothing) (hk : ∀ z, (k z).RefusesFirst) :
    (x >>= k).RefusesFirst := by
  intro a a' e h
  have ha := hx a
  rcases hrun : x.runFrom a with ⟨e' | z, a''⟩
  · rw [runFrom_bind_of_error hrun] at h
    rw [hrun] at ha
    cases h
    exact ha
  · -- the second part starts where the first has, and leaves that as it was
    rw [runFrom_bind_of_ok hrun] at h
    rw [hrun] at ha
    exact (hk z a'' a' e h).trans ha

/-- What is read from operands binds nothing. -/
theorem refusesFirst_lift_bind {x : Except Error α} (hk : ∀ z, (k z).RefusesFirst) :
    (lift x >>= k).RefusesFirst :=
  (bindsNothing_lift x).bind_refusesFirst hk

theorem refusesFirst_lift (x : Except Error α) : (lift x).RefusesFirst :=
  (bindsNothing_lift x).refusesFirst

end Session

/-- An operand that is no condition and no query. -/
def Operand.isPlain {κ θ : Type} : Operand κ θ → Bool
  | condition _ | query _ => false
  | _ => true

theorem Operand.isPlain_map {κ θ κ' θ' : Type} (f : κ → κ') (g : θ → θ') (o : Operand κ θ) :
    (o.map f g).isPlain = o.isPlain := by
  cases o <;> rfl

namespace Dialect

open Session

variable (d : Dialect) (op : Operator)
variable {os : List (Operand (Session String) (Session String))} (h : ∀ o ∈ os, o.isPlain = true)

include h

/-- An operand of a junction or a negation is text, or refused. -/
theorem bindsNothing_ofOperand (message : String) :
    ∀ o ∈ os, (ofOperand op message o).BindsNothing := by
  intro o ho
  have hplain := h o ho
  cases o with
  | condition | query => cases hplain
  | expr sql => exact bindsNothing_pure sql
  | _ => exact bindsNothing_lift _

theorem refusesFirst_writeJunction : (writeJunction op os).RefusesFirst := by
  refine (BindsNothing.mapM (bindsNothing_ofOperand op h _)).bind_refusesFirst fun texts => ?_
  dsimp only
  split
  · exact (succeeds_pure _).refusesFirst
  · exact (succeeds_pure _).refusesFirst

theorem refusesFirst_writeNegation : (writeNegation op os).RefusesFirst := by
  unfold writeNegation
  split
  · refine (bindsNothing_ofOperand op h _ _ (by simp)).bind_refusesFirst fun sql => ?_
    split
    · exact (succeeds_pure _).refusesFirst
    · exact (succeeds_pure _).refusesFirst
  · exact refusesFirst_lift _

omit h in
/-- The column and both bounds are read before the first bound is bound. -/
theorem refusesFirst_writeRange : (d.writeRange op os).RefusesFirst := by
  unfold writeRange
  split
  · refine refusesFirst_lift_bind fun name => ?_
    refine refusesFirst_lift_bind fun low => refusesFirst_lift_bind fun high => ?_
    refine Succeeds.refusesFirst ?_
    exact (succeeds_slot low).bind fun _ => (succeeds_slot high).bind fun _ => succeeds_pure _
  · exact refusesFirst_lift _

theorem refusesFirst_writeMembership : (d.writeMembership op os).RefusesFirst := by
  unfold writeMembership
  split
  · next left right =>
    refine refusesFirst_lift_bind fun names => ?_
    have hplain : right.isPlain = true := h right (by simp)
    unfold writeMemberOf
    split
    · exact (succeeds_pure _).refusesFirst
    · split
      · cases hplain
      · -- the values are read before the first of them is bound
        exact refusesFirst_lift_bind fun vs => (d.succeeds_writeListed op _ vs).refusesFirst
      · exact (d.succeeds_writeInRows op _ _).refusesFirst
      · exact refusesFirst_lift _
  · exact refusesFirst_lift _

omit h in
/-- The column, the patterns and the escaping are read before the first pattern is bound. -/
theorem refusesFirst_writeLike (likeOp : LikeOp) : (d.writeLike op likeOp os).RefusesFirst := by
  refine refusesFirst_lift_bind fun m => ?_
  split
  · exact (succeeds_pure _).refusesFirst
  · refine Succeeds.refusesFirst ((Succeeds.mapM fun v _ => ?_).bind fun _ => succeeds_pure _)
    exact d.succeeds_writeFits likeOp _ v

theorem refusesFirst_writeExistence : (writeExistence op os).RefusesFirst := by
  unfold writeExistence
  split
  · have hplain := h _ List.mem_cons_self
    cases hplain
  · exact refusesFirst_lift _
  · exact refusesFirst_lift _

theorem refusesFirst_writeComparison : (d.writeComparison op os).RefusesFirst := by
  unfold writeComparison
  split
  · next column right =>
    refine refusesFirst_lift_bind fun name => ?_
    have hplain : right.isPlain = true := h right (by simp)
    -- a plain operand is no query, and what else there is binds when all is read
    split
    · cases hplain
    · exact (succeeds_pure _).refusesFirst
    · refine refusesFirst_lift_bind fun v => Succeeds.refusesFirst ?_
      exact (succeeds_slot v).bind fun _ => succeeds_pure _
  · exact refusesFirst_lift _

/-- **Every operator refuses first** if its operands are plain. -/
theorem refusesFirst_writeOperator : (d.writeOperator op os).RefusesFirst := by
  cases op with
  | and | or => exact refusesFirst_writeJunction _ h
  | not => exact refusesFirst_writeNegation _ h
  | between | notBetween => exact refusesFirst_writeRange d _
  | isIn | notIn => exact refusesFirst_writeMembership d _ h
  | like likeOp => exact refusesFirst_writeLike d _ likeOp
  | hasRow | hasNoRow => exact refusesFirst_writeExistence _ h
  | compare text => exact refusesFirst_writeComparison d _ h

end Dialect

namespace Target

/-- **A refused operator binds nothing.** Whatever the operator and however many operands it has,
if none of them is a condition or a query and the condition is refused, the parameters and the
counter are what they were, so that a session which goes on behind the refusal runs as if the
condition had not been written. -/
theorem refused_unbound (t : Target) (op : Operator) (operands : List (Operand Condition Query))
    (hplain : ∀ o ∈ operands, o.isPlain = true) (a a' : Allocator) (e : Error)
    (h : (t.writeCondition (.operator op operands)).runFrom a = (.error e, a')) :
    a' = a ∧ ∀ later : Session String,
      (tryCatch (t.writeCondition (.operator op operands)) fun _ => later).runFrom a =
        later.runFrom a := by
  have hlayer : t.writeCondition (.operator op operands) =
      t.dialect.writeOperator op (operands.map (·.map t.writeCondition t.write)) := by
    rw [writeCondition, Condition.operator, Condition.fold_mk]
    rfl
  -- the operands are plain also once what stands in them has been written
  have hplain' : ∀ o ∈ operands.map (·.map t.writeCondition t.write), o.isPlain = true := by
    intro o ho
    obtain ⟨o', ho', rfl⟩ := List.mem_map.mp ho
    rw [Operand.isPlain_map]
    exact hplain o' ho'
  have ha : a' = a := by
    rw [hlayer] at h
    exact t.dialect.refusesFirst_writeOperator op hplain' a a' e h
  subst ha
  exact ⟨rfl, fun later => Session.runFrom_tryCatch_of_error (fun _ => later) h⟩

/-- The second bound of a range is no value, and the parameters hold a name that is passed over
later. -/
theorem refused_unbound_range :
    let t : Target := { dialect := Dialect.mysql }
    let operands : List (Operand Condition Query) :=
      [.expr "a", .value (.int 1), .values [.int 2]]
    let a := Allocator.new (.ofList [(":qp1", .null)])
    (∀ o ∈ operands, o.isPlain = true) ∧
      (t.writeCondition (.operator .between operands)).runFrom a =
        (.error (.invalidOperand "BETWEEN" "expected a scalar value"), a) ∧
      (tryCatch (t.writeCondition (.operator .between operands)) fun _ =>
        Session.slot (.int 3)).runFrom a = (Session.slot (.int 3)).runFrom a := by
  intro t operands a
  have hplain : ∀ o ∈ operands, o.isPlain = true := by decide
  have hrun : (t.writeCondition (.operator .between operands)).runFrom a =
      (.error (.invalidOperand "BETWEEN" "expected a scalar value"), a) := rfl
  exact ⟨hplain, hrun, (refused_unbound t .between operands hplain a a _ hrun).2 _⟩

end Target

end SqlCompose

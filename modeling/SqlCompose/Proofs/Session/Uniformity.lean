import SqlCompose.Proofs.Session.Agreement
/-!
# Every allocator sees the same statement

What a query or a condition is written to depends on the allocator only in the names of
the placeholders. `Session.Uniform` says this of a session: from whichever allocator it
starts, it has the same outcome, writes the same template and binds the same values in
the same order, and all it does to the map is to add entries behind the old ones.

`Target.uniform` is this property of all queries and conditions. It rests on
`Target.write_eq_session`: a fragment has a template and values before any allocator is
known, and a rejection has the values that were bound in front of it.
-/

namespace SqlCompose

/-- **Uniformity in the allocator.** Either the session always writes one template, with
fresh placeholders in its holes from left to right, and binds one list of values to
them; or it always fails with one error, having bound one list of values. In both cases
the entries that were there stay in front, unchanged (`Allocator.Grows`). -/
def Session.Uniform (x : Session String) : Prop :=
  (∃ (T : Template) (V : List Value), T.holes = V.length ∧
    ∀ a, ∃ ns a', x.runFrom a = (.ok (T.fill (ns.map placeholderName)), a') ∧
      a.Grows a' ns V) ∨
  ∃ (e : Error) (V : List Value),
    ∀ a, ∃ ns a', x.runFrom a = (.error e, a') ∧ a.Grows a' ns V

/-- Whatever its outcome, a uniform session only adds entries behind the old ones. -/
theorem Session.Uniform.exists_grows {x : Session String} (h : x.Uniform) (a : Allocator) :
    ∃ ns V, a.Grows (x.runFrom a).2 ns V := by
  rcases h with ⟨T, V, -, hrun⟩ | ⟨e, V, hrun⟩
  · obtain ⟨ns, a', hx, hgrows⟩ := hrun a
    exact ⟨ns, V, by rwa [hx]⟩
  · obtain ⟨ns, a', hx, hgrows⟩ := hrun a
    exact ⟨ns, V, by rwa [hx]⟩

/-- Filling what was compiled is uniform. -/
theorem Compiled.uniform_session (c : Compiled) : c.session.Uniform := by
  cases c with
  | ok f =>
    refine Or.inl ⟨f.template, f.values, f.holes_template, fun a => ?_⟩
    -- the template and the values belong to the fragment, only the names to the allocator
    obtain ⟨ns, hgrows, htext⟩ := Fragment.exists_grows_fill f a
    refine ⟨ns, (Fragment.fill a f).2, ?_, hgrows⟩
    rw [← htext]
    rfl
  | error r =>
    refine Or.inr ⟨r.error, r.bound, fun a => ?_⟩
    -- what was bound in front of the rejection stays in the map
    obtain ⟨ns, hgrows, -⟩ := a.exists_grows_bindAll r.bound
    exact ⟨ns, (a.bindAll r.bound).2, rfl, hgrows⟩

/-- **Compilation is uniform in the allocator**, for every query and every condition,
whatever the dialect and the separator. -/
theorem Target.uniform (t : Target) :
    (∀ q : Query, (t.write q).Uniform) ∧ ∀ c : Condition, (t.writeCondition c).Uniform := by
  constructor
  · intro q
    rw [t.write_eq_session]
    exact Compiled.uniform_session _
  · intro c
    rw [t.writeCondition_eq_session]
    exact Compiled.uniform_session _

end SqlCompose

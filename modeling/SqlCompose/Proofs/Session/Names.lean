import SqlCompose.Dialect.Postgres
import SqlCompose.Proofs.Params.Overlay
import SqlCompose.Proofs.Query.Inside
import SqlCompose.Proofs.Session.Uniformity
/-!
# No name is used twice

A statement is written by one descent through the query, and the names that the query
uses are collected by another. The second has to see everything that the first does, or
a placeholder could take a name that some subquery already uses.

`Target.Consults` says what the writing of a layer looks at: that for which another text
could make a difference. Only what the layer contains can make one
(`Target.Consults.contains`), so writing never leaves the tree whose names were collected
(`Target.Visits.nests`). `Target.names_of_build` puts this together with what the
allocator guarantees: the map of a statement has the names that were collected, then the
generated ones, and no name twice.
-/

namespace SqlCompose

namespace Target

variable (t : Target)

/-! ### What writing looks at -/

/-- What is written for a condition or a query, given what is written for everything
else. -/
def writeLayer (w : Condition ⊕ Query → Session String) : Condition ⊕ Query → Session String
  | .inl c => t.dialect.writeConditionNode (c.node.map (w ∘ .inl) (w ∘ .inr))
  | .inr q => t.writeQueryNode (q.node.map (w ∘ .inl) (w ∘ .inr))

/-- Writing is a fixed point of `writeLayer`: this is how the layers of a statement are written. -/
theorem writeLayer_write (x : Condition ⊕ Query) :
    t.writeLayer (Sum.elim t.writeCondition t.write) x = Sum.elim t.writeCondition t.write x := by
  cases x with
  | inl c =>
    obtain ⟨n⟩ := c
    exact (Condition.fold_mk t.dialect.writeConditionNode t.writeQueryNode n).symm
  | inr q =>
    obtain ⟨n⟩ := q
    exact (Query.fold_mk t.dialect.writeConditionNode t.writeQueryNode n).symm

/-- **Consultation.** What is written for `x` may depend on what is written for `y`: two
ways of writing that differ at most for `y` do not give the same for `x`. -/
def Consults (x y : Condition ⊕ Query) : Prop :=
  ∃ w w' : Condition ⊕ Query → Session String,
    (∀ z, z ≠ y → w z = w' z) ∧ t.writeLayer w x ≠ t.writeLayer w' x

/-- The queries that may be written when a query is: the query itself, what it consults,
what that consults, and so on. -/
def Visits (q r : Query) : Prop :=
  Relation.ReflTransGen t.Consults (.inr q) (.inr r)

variable {t}

/-- A layer consults only what it contains. -/
theorem Consults.contains {x y : Condition ⊕ Query} (h : t.Consults x y) : Contains x y := by
  obtain ⟨w, w', hsame, hdiffer⟩ := h
  by_contra hxy
  -- everything that the layer does contain is written in the same way twice
  have hcontents : ∀ z, Contains x z → w z = w' z := by
    intro z hz
    refine hsame z ?_
    rintro rfl
    exact hxy hz
  apply hdiffer
  cases x with
  | inl c =>
    obtain ⟨n⟩ := c
    exact congrArg t.dialect.writeConditionNode
      (ConditionNode.map_congr (fun c hc => hcontents _ hc) fun q hq => hcontents _ hq)
  | inr q =>
    obtain ⟨n⟩ := q
    exact congrArg t.writeQueryNode
      (QueryNode.map_congr (fun c hc => hcontents _ hc) fun q hq => hcontents _ hq)

/-- Writing visits nothing but what stands inside. -/
theorem Visits.nests {q r : Query} (h : t.Visits q r) : q.Nests r :=
  Relation.ReflTransGen.mono (fun _ _ => Consults.contains) _ _ h

/-! ### Something is visited -/

open Classical in
/-- The way of writing in which only one condition or query is any text. -/
noncomputable def writeOnly (y : Condition ⊕ Query) (x : Session String) :
    Condition ⊕ Query → Session String :=
  Function.update (fun _ => pure "") y x

theorem writeOnly_self (y : Condition ⊕ Query) (x : Session String) : writeOnly y x y = x := by
  classical exact Function.update_self _ _ _

/-- A layer consults what it is written differently for when it is written or refused. -/
theorem consults_of_ne {z y : Condition ⊕ Query}
    (h : t.writeLayer (writeOnly y (pure "")) z ≠
      t.writeLayer (writeOnly y (throw Dialect.joinError)) z) : t.Consults z y := by
  classical
  refine ⟨_, _, fun v hv => ?_, h⟩
  rw [writeOnly, writeOnly, Function.update_of_ne hv, Function.update_of_ne hv]

/-- The query of an `EXISTS` is visited. -/
theorem visits_exists (t : Target) (r : Query) :
    t.Visits ⟨{ filter := some ⟨.operator .hasRow [.query r]⟩ }⟩ r := by
  -- in each of the two steps, refusing the inner text refuses the outer one
  have hcondition : t.Consults (.inl ⟨.operator .hasRow [.query r]⟩) (.inr r) := by
    refine consults_of_ne fun h => ?_
    have hrun := congrArg (fun x => (Session.runFrom x ⟨.empty, 0⟩).1.isOk) h
    change (Session.runFrom (writeOnly (.inr r) (pure "") (.inr r) >>= _) _).1.isOk =
      (Session.runFrom (writeOnly (.inr r) (throw _) (.inr r) >>= _) _).1.isOk at hrun
    rw [writeOnly_self, writeOnly_self] at hrun
    cases hrun
  have hfilter : t.Consults (.inr ⟨{ filter := some ⟨.operator .hasRow [.query r]⟩ }⟩)
      (.inl ⟨.operator .hasRow [.query r]⟩) := by
    refine consults_of_ne fun h => ?_
    have hrun := congrArg (fun x => (Session.runFrom x ⟨.empty, 0⟩).1.isOk) h
    simp only [writeLayer, writeQueryNode, QueryNode.map, Option.map_some, Function.comp_apply,
      writeOnly_self] at hrun
    cases hrun
  exact .head hfilter (.single hcondition)

/-! ### The names of a statement -/

/-- **The names of a statement** of `q` over `seed`: the map has the entries `R`, which were
there before anything was written, and behind them the entries `G`, which writing has
generated. -/
structure Names (t : Target) (q : Query) (seed : Params) (st : Statement)
    (R G : List (String × Value)) : Prop where
  entries : st.params.entries = R ++ G
  /-- Writing starts from `R`. -/
  start : (q.collectParams seed).entries = R
  /-- `R` is the seed, overlaid with the parameters of the query and of every query inside
  it, in their order. -/
  reserved : R = Params.overlay (seed.entries ++ q.inside.flatMap (·.node.params.entries))
  /-- These are the queries that stand at any depth inside the query. -/
  inside : ∀ r, r ∈ q.inside ↔ q.Nests r
  /-- Writing visits no other queries. -/
  visited : ∀ r, t.Visits q r → q.Nests r
  /-- The names of all queries that are visited are in `R`. -/
  known : ∀ r, t.Visits q r → ∀ name ∈ r.node.params.keys, name ∈ R.map (·.1)
  /-- Generated names have numbers from the size of `R` on. -/
  generated : ∀ e ∈ G, ∃ N, R.length ≤ N ∧ e.1 = placeholderName N
  /-- No generated name is used in the seed, in the query or inside it. -/
  free : ∀ e ∈ G, e.1 ∉ seed.keys ∧ ∀ r, q.Nests r → e.1 ∉ r.node.params.keys
  distinct : st.params.keys.Nodup

end Target

namespace Query

/-- Collecting parameters inserts those of all queries inside, in their order. -/
theorem collectParams_eq (q : Query) (seed : Params) :
    q.collectParams seed = seed.insertMany (q.inside.flatMap (·.node.params.entries)) := by
  rw [collectParams, paramsInside_eq, Params.foldl_merge, List.flatMap_map]

/-- The names that are collected are those of the seed and those of the queries inside. -/
theorem mem_keys_collectParams {q : Query} {seed : Params} (hseed : seed.keys.Nodup)
    {name : String} :
    name ∈ (q.collectParams seed).keys ↔
      name ∈ seed.keys ∨ ∃ r, q.Nests r ∧ name ∈ r.node.params.keys := by
  rw [collectParams_eq, Params.mem_keys_insertMany hseed, List.map_flatMap, List.mem_flatMap]
  simp only [mem_inside_iff]
  rfl

end Query

namespace Target

/-- A statement is written by a run of bindings over the collected parameters. -/
theorem exists_grows_of_build {t : Target} {q : Query} {seed : Params} {st : Statement}
    (h : t.build q seed = .ok st) :
    ∃ ns V a, (Allocator.new (q.collectParams seed)).Grows a ns V ∧ a.params = st.params := by
  have hwrite : (t.write q).Uniform := by
    rw [t.write_eq_session]
    exact Compiled.uniform_session _
  obtain ⟨ns, V, hgrows⟩ := hwrite.exists_grows (Allocator.new (q.collectParams seed))
  refine ⟨ns, V, _, hgrows, ?_⟩
  unfold build at h
  dsimp only at h
  -- only a session that has written a text gives a statement
  cases hsql : ((t.write q).runFrom (Allocator.new (q.collectParams seed))).1 with
  | error e =>
    rw [hsql] at h
    cases h
  | ok sql =>
    rw [hsql] at h
    cases h
    rfl

/-- **No name is used twice** in the statement of a query, at whatever depth it is bound. -/
theorem names_of_build (t : Target) (q : Query) {seed : Params} {st : Statement}
    (hseed : seed.keys.Nodup) (h : t.build q seed = .ok st) : ∃ R G, t.Names q seed st R G := by
  obtain ⟨ns, V, a, hgrows, hparams⟩ := exists_grows_of_build h
  have hentries : (q.collectParams seed).entries =
      Params.overlay (seed.entries ++ q.inside.flatMap (·.node.params.entries)) := by
    rw [Query.collectParams_eq, Params.entries_insertMany hseed]
  have hnodup : (q.collectParams seed).keys.Nodup := by
    rw [Query.collectParams_eq]
    exact Params.nodup_keys_insertMany hseed _
  -- a generated entry has the placeholder of one of the numbers `ns` as its name
  have hnumber : ∀ e ∈ (ns.map placeholderName).zip V, ∃ n ∈ ns, e.1 = placeholderName n := by
    intro e he
    obtain ⟨n, hn, heq⟩ := List.mem_map.mp (List.of_mem_zip he).1
    exact ⟨n, hn, heq.symm⟩
  refine ⟨(q.collectParams seed).entries, (ns.map placeholderName).zip V, ?_⟩
  constructor
  case entries =>
    rw [← hparams]
    exact hgrows.entries
  case start => rfl
  case reserved => exact hentries
  case inside => exact q.mem_inside_iff
  case visited => exact fun r hr => hr.nests
  case known =>
    intro r hr name hname
    exact (Query.mem_keys_collectParams hseed).mpr (Or.inr ⟨r, hr.nests, hname⟩)
  case generated =>
    intro e he
    obtain ⟨n, hn, hname⟩ := hnumber e he
    exact ⟨n, hgrows.next_le n hn, hname⟩
  case free =>
    intro e he
    obtain ⟨n, hn, hname⟩ := hnumber e he
    have hfree : e.1 ∉ (q.collectParams seed).keys := hname ▸ hgrows.fresh n hn
    rw [Query.mem_keys_collectParams hseed, not_or] at hfree
    exact ⟨hfree.1, fun r hr hmem => hfree.2 ⟨r, hr, hmem⟩⟩
  case distinct =>
    rw [← hparams]
    exact hgrows.nodup_keys hnodup

/-- A seed and a subquery under `EXISTS` that use generated names: the map starts with
theirs, and the values of the subquery get the next ones. -/
theorem names_of_build_exists :
    let r : Query := ⟨{ tables := [.bare "o"]
                        filter := some ⟨.hash [("a", .value (.int 1)), ("b", .value (.int 2))]⟩
                        params := ⟨[(":qp1", .int 5)]⟩ }⟩
    let q : Query := ⟨{ filter := some ⟨.operator .hasRow [.query r]⟩ }⟩
    let seed : Params := ⟨[(":qp2", .int 7)]⟩
    ∃ st R G, Names ⟨Dialect.postgres, " "⟩ q seed st R G ∧
      (∀ name ∈ r.node.params.keys, name ∈ R.map (·.1)) ∧
      st.params.keys = [":qp2", ":qp1", ":qp3", ":qp4"] := by
  intro r q seed
  have hseed : seed.keys.Nodup := List.nodup_singleton _
  obtain ⟨R, G, hnames⟩ := names_of_build ⟨Dialect.postgres, " "⟩ q hseed rfl
  exact ⟨_, R, G, hnames, hnames.known r (visits_exists _ r), by decide +kernel⟩

end Target

end SqlCompose

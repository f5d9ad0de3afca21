import Mathlib.Data.List.Induction
import SqlCompose.Proofs.Params.Overlay
/-!
# Parameters and their history

Parameters are put together by operations: single insertions and removals, further entries,
other parameters merged in, and values bound to fresh placeholders. What all this does to single
names is a list of changes, each of which sets or drops one name: the history.

The history says everything about the map. `Params.Records h p` is the agreement of the two. The
names are distinct. A look-up finds the value that stands (`Stands`), the one that the name got
when it was changed last. The names are in the order in which they came in (`CameIn`), and a name
that was dropped comes in anew.

**One change** more is one step of both (`Records.change`): what it means for a history is
`stands_concat` and `cameIn_concat`, what it means for a map are the lemmas on insertions and
removals. **An operation** is one change after the other (`Operation.apply_eq`), so a run of
operations records its history (`records_run`).

Maps with distinct names are equal if their names and look-ups are (`eq_of_nodup`). From this
come the laws of merging, `merge_assoc` and `merge_self`.
-/

namespace SqlCompose.Params

/-! ### Histories -/

/-- What happens to one name. -/
inductive Change
  | set (name : String) (value : Value)
  | drop (name : String)

namespace Change

/-- The name that is changed. -/
def name : Change → String
  | set name _ => name
  | drop name => name

/-- The map behind a change. -/
def apply (p : Params) : Change → Params
  | set name value => p.insert name value
  | drop name => p.erase name

end Change

/-- **The value that stands** under a name: it was set, and behind that the name was neither set
nor dropped. -/
def Stands (h : List Change) (name : String) (value : Value) : Prop :=
  ∃ before after, h = before ++ .set name value :: after ∧ ∀ c ∈ after, c.name ≠ name

/-- **When a name came in**: it was set by the change behind the first `n`, in front of which no
value stood under it, and was not dropped behind that. -/
def CameIn (h : List Change) (name : String) (n : Nat) : Prop :=
  ∃ before value after, h = before ++ .set name value :: after ∧ before.length = n ∧
    (∀ v, ¬ Stands before name v) ∧ .drop name ∉ after

variable {h : List Change} {c : Change} {name : String} {n : Nat}

/-- A change in a history with one more change is the last one, or one of those before. -/
theorem concat_eq_append_cons_iff {α : Type} {xs before after : List α} {x y : α} :
    xs ++ [x] = before ++ y :: after ↔
      (xs = before ∧ x = y ∧ after = []) ∨ ∃ after', after = after' ++ [x] ∧
        xs = before ++ y :: after' := by
  constructor
  · intro heq
    -- `x` is `y` if nothing stands behind `y`, and the last of `after` if something does
    rcases List.eq_nil_or_concat' after with rfl | ⟨after', z, rfl⟩
    · obtain ⟨hxs, hx⟩ := List.append_inj' heq rfl
      exact Or.inl ⟨hxs, (List.cons.inj hx).1, rfl⟩
    · rw [← List.cons_append, ← List.append_assoc] at heq
      obtain ⟨hxs, hx⟩ := List.append_inj' heq rfl
      rw [(List.cons.inj hx).1]
      exact Or.inr ⟨after', rfl, hxs⟩
  · rintro (⟨rfl, rfl, rfl⟩ | ⟨after', rfl, rfl⟩)
    · rfl
    · rw [List.append_assoc, List.cons_append]

/-- Behind one more change the value stands that it has set, and every other name has the value
that stood before. -/
theorem stands_concat {value : Value} :
    Stands (h ++ [c]) name value ↔ c = .set name value ∨ (c.name ≠ name ∧ Stands h name value) := by
  constructor
  · rintro ⟨before, after, heq, hafter⟩
    rcases concat_eq_append_cons_iff.mp heq with ⟨-, hc, -⟩ | ⟨after', rfl, hh⟩
    · exact Or.inl hc
    · refine Or.inr ⟨hafter c (by simp), before, after', hh, fun c' hc' => ?_⟩
      exact hafter c' (List.mem_append_left _ hc')
  · rintro (rfl | ⟨hc, before, after, rfl, hafter⟩)
    · exact ⟨h, [], rfl, by simp⟩
    · refine ⟨before, after ++ [c], by simp, fun c' hc' => ?_⟩
      rcases List.mem_append.mp hc' with hc' | hc'
      · exact hafter c' hc'
      · rwa [List.mem_singleton.mp hc']

/-- A name comes in with one more change if that sets it and no value stood before, and stays in
if it is not dropped. -/
theorem cameIn_concat :
    CameIn (h ++ [c]) name n ↔
      (n = h.length ∧ (∃ v, c = .set name v) ∧ ∀ v, ¬ Stands h name v) ∨
        (c ≠ .drop name ∧ CameIn h name n) := by
  constructor
  · rintro ⟨before, value, after, heq, hlength, hnone, hdrop⟩
    rcases concat_eq_append_cons_iff.mp heq with ⟨rfl, hc, -⟩ | ⟨after', rfl, hh⟩
    · exact Or.inl ⟨hlength.symm, ⟨value, hc⟩, hnone⟩
    · rw [List.mem_append, List.mem_singleton, not_or] at hdrop
      exact Or.inr ⟨fun hc => hdrop.2 hc.symm, before, value, after', hh, hlength, hnone, hdrop.1⟩
  · rintro (⟨rfl, ⟨value, rfl⟩, hnone⟩ | ⟨hc, before, value, after, rfl, hlength, hnone, hdrop⟩)
    · exact ⟨h, value, [], rfl, rfl, hnone, by simp⟩
    · refine ⟨before, value, after ++ [c], by simp, hlength, hnone, ?_⟩
      rw [List.mem_append, List.mem_singleton, not_or]
      exact ⟨hdrop, hc.symm⟩

theorem not_stands_nil (value : Value) : ¬ Stands [] name value := by
  rintro ⟨before, after, heq, -⟩
  simp at heq

theorem CameIn.lt_length (hn : CameIn h name n) : n < h.length := by
  obtain ⟨before, value, after, rfl, rfl, -⟩ := hn
  simp

/-- **A name is in** if and only if a value stands under it. -/
theorem exists_cameIn_iff : (∃ n, CameIn h name n) ↔ ∃ v, Stands h name v := by
  induction h using List.reverseRecOn with
  | nil =>
    constructor
    · rintro ⟨n, hn⟩
      exact absurd hn.lt_length (Nat.not_lt_zero n)
    · rintro ⟨v, hv⟩
      exact absurd hv (not_stands_nil v)
  | append_singleton h c ih =>
    simp only [cameIn_concat, stands_concat]
    constructor
    · rintro ⟨n, ⟨-, ⟨v, hc⟩, -⟩ | ⟨hc, hn⟩⟩
      · exact ⟨v, Or.inl hc⟩
      · -- a name that stays in has its old value or a new one
        obtain ⟨v, hv⟩ := ih.mp ⟨n, hn⟩
        by_cases hname : c.name = name
        · cases c with
          | set name' v' => exact ⟨v', Or.inl (congrArg (Change.set · v') hname)⟩
          | drop name' => exact absurd (congrArg Change.drop hname) hc
        · exact ⟨v, Or.inr ⟨hname, hv⟩⟩
    · rintro ⟨v, rfl | ⟨hname, hv⟩⟩
      · by_cases hold : ∃ v, Stands h name v
        · -- a name that is in already came in before
          obtain ⟨n, hn⟩ := ih.mpr hold
          exact ⟨n, Or.inr ⟨by simp, hn⟩⟩
        · exact ⟨h.length, Or.inl ⟨rfl, ⟨v, rfl⟩, not_exists.mp hold⟩⟩
      · obtain ⟨n, hn⟩ := ih.mpr ⟨v, hv⟩
        refine ⟨n, Or.inr ⟨?_, hn⟩⟩
        rintro rfl
        exact hname rfl

/-- One more change does not change when a name came in that is in already. -/
theorem CameIn.of_concat {v : Value} (hv : Stands h name v) (hn : CameIn (h ++ [c]) name n) :
    CameIn h name n := by
  rcases cameIn_concat.mp hn with ⟨-, -, hnone⟩ | ⟨-, hn⟩
  · exact absurd hv (hnone v)
  · exact hn

/-! ### Maps and their histories -/

/-- **A map that records a history.** -/
structure Records (h : List Change) (p : Params) : Prop where
  nodup : p.keys.Nodup
  /-- A look-up finds the value that stands, and nothing if none does. -/
  get?_eq_some_iff : ∀ name v, p.get? name = some v ↔ Stands h name v
  /-- The names are those that are in. -/
  mem_keys_iff : ∀ name, name ∈ p.keys ↔ ∃ n, CameIn h name n
  /-- The names are in the order in which they came in. -/
  order : p.keys.Pairwise fun name name' =>
    ∀ m n, CameIn h name m → CameIn h name' n → m < n

variable {p : Params}

/-- Names that look-ups find in a history are those of the map. -/
theorem mem_keys_iff_of_stands (hget : ∀ name v, p.get? name = some v ↔ Stands h name v)
    (name : String) : name ∈ p.keys ↔ ∃ n, CameIn h name n := by
  rw [exists_cameIn_iff, ← not_iff_not, ← get?_eq_none_iff, Option.eq_none_iff_forall_ne_some]
  simp [hget]

namespace Records

theorem nil : Records [] empty where
  nodup := List.nodup_nil
  get?_eq_some_iff name v := by simp [not_stands_nil]
  mem_keys_iff := mem_keys_iff_of_stands fun name v => by simp [not_stands_nil]
  order := .nil

theorem exists_stands (hp : Records h p) (hname : name ∈ p.keys) : ∃ v, Stands h name v :=
  exists_cameIn_iff.mp ((hp.mem_keys_iff name).mp hname)

/-- Names that were in the map are still in the order in which they came in. -/
theorem order_of_sublist (hp : Records h p) {names : List String} (hnames : names.Sublist p.keys)
    (c : Change) :
    names.Pairwise fun name name' =>
      ∀ m n, CameIn (h ++ [c]) name m → CameIn (h ++ [c]) name' n → m < n := by
  refine (hp.order.sublist hnames).imp_of_mem fun {name name'} hname hname' hlt m n hm hn => ?_
  obtain ⟨v, hv⟩ := hp.exists_stands (hnames.subset hname)
  obtain ⟨v', hv'⟩ := hp.exists_stands (hnames.subset hname')
  exact hlt m n (hm.of_concat hv) (hn.of_concat hv')

/-- A name that is set gets the value, in its place or behind all others. -/
theorem set (hp : Records h p) (name : String) (value : Value) :
    Records (h ++ [.set name value]) (p.insert name value) := by
  have hget : ∀ k v, (p.insert name value).get? k = some v ↔
      Stands (h ++ [.set name value]) k v := by
    intro k v
    rw [get?_insert, stands_concat, Change.set.injEq, Change.name]
    split
    · next hk => simp [hk]
    · next hk => simp [hp.get?_eq_some_iff, Ne.symm hk]
  refine ⟨nodup_keys_insert hp.nodup name value, hget, mem_keys_iff_of_stands hget, ?_⟩
  rw [keys_insert]
  split
  · -- the name keeps its place, as it does not come in anew
    exact hp.order_of_sublist (List.Sublist.refl _) _
  · next hmem =>
    refine List.pairwise_append.mpr
      ⟨hp.order_of_sublist (List.Sublist.refl _) _, List.pairwise_singleton _ _, ?_⟩
    intro k hk k' hk' m n hm hn
    rw [List.mem_singleton] at hk'
    subst hk'
    -- the new name came in with this change, and all others before it
    obtain ⟨v, hv⟩ := hp.exists_stands hk
    rcases cameIn_concat.mp hn with ⟨rfl, -⟩ | ⟨-, hn⟩
    · exact (hm.of_concat hv).lt_length
    · exact absurd ((hp.mem_keys_iff k').mpr ⟨n, hn⟩) hmem

/-- A name that is dropped is gone, and the others stay as they are. -/
theorem drop (hp : Records h p) (name : String) :
    Records (h ++ [.drop name]) (p.erase name) := by
  have hget : ∀ k v, (p.erase name).get? k = some v ↔ Stands (h ++ [.drop name]) k v := by
    intro k v
    rw [stands_concat, Change.name]
    by_cases hk : k = name
    · simp [hk, get?_erase_self hp.nodup]
    · simp [get?_erase_of_ne hk, hp.get?_eq_some_iff, Ne.symm hk]
  have hsub : (p.erase name).keys.Sublist p.keys := keys_erase p name ▸ List.erase_sublist
  exact ⟨hp.nodup.sublist hsub, hget, mem_keys_iff_of_stands hget, hp.order_of_sublist hsub _⟩

/-- **One change** more. -/
theorem change (hp : Records h p) (c : Change) : Records (h ++ [c]) (c.apply p) := by
  cases c with
  | set name value => exact hp.set name value
  | drop name => exact hp.drop name

/-- Changes one after the other. -/
theorem changes (hp : Records h p) (cs : List Change) :
    Records (h ++ cs) (cs.foldl Change.apply p) := by
  induction cs generalizing h p with
  | nil => rwa [List.append_nil]
  | cons c cs ih =>
    rw [List.append_cons, List.foldl_cons]
    exact ih (hp.change c)

end Records

/-! ### Operations -/

/-- An operation on parameters. -/
inductive Operation
  | insert (name : String) (value : Value)
  | erase (name : String)
  | merge (q : Params)
  | extend (entries : List (String × Value))
  /-- A value for the first placeholder from a number on that is free. -/
  | bind (next : Nat) (value : Value)

namespace Operation

/-- The map behind an operation. -/
def apply (p : Params) : Operation → Params
  | insert name value => p.insert name value
  | erase name => p.erase name
  | merge q => p.merge q
  | extend entries => p.insertMany entries
  | bind next value => (Allocator.bind ⟨p, next⟩ value).2.params

/-- What an operation does to single names, one after the other. -/
def changes (p : Params) : Operation → List Change
  | insert name value => [.set name value]
  | erase name => [.drop name]
  | merge q => q.entries.map fun e => .set e.1 e.2
  | extend entries => entries.map fun e => .set e.1 e.2
  | bind next value => [.set (Allocator.bind ⟨p, next⟩ value).1 value]

/-- **An operation** is one change after the other. -/
theorem apply_eq (p : Params) (op : Operation) :
    op.apply p = (op.changes p).foldl Change.apply p := by
  cases op with
  | insert | erase | bind => rfl
  | merge | extend =>
    rw [changes, List.foldl_map]
    rfl

/-- What operations do to single names, one after the other. -/
def history (p : Params) : List Operation → List Change
  | [] => []
  | op :: ops => op.changes p ++ history (op.apply p) ops

end Operation

/-- The parameters that operations make of none. -/
def run (ops : List Operation) : Params := ops.foldl Operation.apply empty

theorem Records.operations (hp : Records h p) (ops : List Operation) :
    Records (h ++ Operation.history p ops) (ops.foldl Operation.apply p) := by
  -- the changes of an operation depend on the map in front of it
  induction ops generalizing h p with
  | nil => rwa [Operation.history, List.append_nil]
  | cons op ops ih =>
    rw [Operation.history, ← List.append_assoc, List.foldl_cons]
    refine ih ?_
    rw [op.apply_eq]
    exact hp.changes _

/-- **A run of operations** records its history. -/
theorem records_run (ops : List Operation) : Records (Operation.history empty ops) (run ops) :=
  Records.nil.operations ops

/-! ### Merging -/

/-- Maps with distinct names are equal if they have the same names in the same order, and the
same values under them. -/
theorem eq_of_nodup {p q : Params} (hp : p.keys.Nodup) (hkeys : p.keys = q.keys)
    (hget : ∀ name, p.get? name = q.get? name) : p = q := by
  have hentries : p.entries = q.entries := by
    rw [entries_eq_of_nodup hp, entries_eq_of_nodup (hkeys ▸ hp), hkeys]
    simp only [hget]
  cases p
  cases q
  exact congrArg Params.mk hentries

variable {q r : Params}

/-- A look-up in merged maps finds the value of the second, and that of the first under a name
that the second does not have. -/
theorem get?_merge (p : Params) (hq : q.keys.Nodup) (name : String) :
    (p.merge q).get? name = (q.get? name).or (p.get? name) := by
  rw [merge, get?_insertMany, lastWritten_entries hq]

theorem keys_merge (hp : p.keys.Nodup) (q : Params) :
    (p.merge q).keys = (p.keys ++ q.keys).eraseDups :=
  keys_insertMany p q.entries hp

theorem nodup_keys_merge (hp : p.keys.Nodup) (q : Params) : (p.merge q).keys.Nodup :=
  nodup_keys_insertMany hp q.entries

theorem merge_assoc (hp : p.keys.Nodup) (hq : q.keys.Nodup) (hr : r.keys.Nodup) :
    (p.merge q).merge r = p.merge (q.merge r) := by
  refine eq_of_nodup (nodup_keys_merge (nodup_keys_merge hp q) r) ?_ fun name => ?_
  · -- on both sides the names of all three, each in the place where it is first
    rw [keys_merge (nodup_keys_merge hp q), keys_merge hp, keys_merge hp, keys_merge hq,
      eraseDups_eraseDups_append, eraseDups_append_eraseDups, List.append_assoc]
  · rw [get?_merge _ hr, get?_merge _ hq, get?_merge _ (nodup_keys_merge hq r), get?_merge _ hr,
      Option.or_assoc]

theorem merge_self (hp : p.keys.Nodup) : p.merge p = p := by
  refine eq_of_nodup (nodup_keys_merge hp p) ?_ fun name => ?_
  · rw [keys_merge hp, eraseDups_append_of_subset (List.Subset.refl _), eraseDups_of_nodup hp]
  · rw [get?_merge _ hp, Option.or_self]

theorem nodup_keys_run (ops : List Operation) : (run ops).keys.Nodup := (records_run ops).nodup

/-- **Parameters are an insertion-ordered map.** Whatever the operations, the names are distinct,
a look-up finds the value that stands under a name, and the names are in the order in which they
came in. Among maps that operations lead to, a look-up in merged ones finds the value of the
second if there is one, merging is associative, the order of the names included, and a map merged
with itself stays as it is. -/
theorem insertion_ordered :
    (∀ ops : List Operation, Records (Operation.history empty ops) (run ops)) ∧
      ∀ ops ops' ops'' : List Operation,
        (∀ name, ((run ops).merge (run ops')).get? name =
            ((run ops').get? name).or ((run ops).get? name)) ∧
          ((run ops).merge (run ops')).merge (run ops'') =
            (run ops).merge ((run ops').merge (run ops'')) ∧
          (run ops).merge (run ops) = run ops := by
  refine ⟨records_run, fun ops ops' ops'' => ⟨fun name => ?_, ?_, ?_⟩⟩
  · exact get?_merge _ (nodup_keys_run ops') name
  · exact merge_assoc (nodup_keys_run ops) (nodup_keys_run ops') (nodup_keys_run ops'')
  · exact merge_self (nodup_keys_run ops)

/-- A name that is set again keeps its place, and one that was dropped comes in anew. -/
example : (run [.extend [("a", .int 1), ("b", .int 2)], .insert "a" (.int 3), .bind 0 .null,
    .erase "a", .merge ⟨[("c", .null), ("b", .null), ("a", .null)]⟩]).keys =
      ["b", ":qp0", "c", "a"] := by
  decide

end SqlCompose.Params

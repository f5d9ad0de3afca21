import SqlCompose.Condition.Build
import SqlCompose.Dialect.MySql
import SqlCompose.Proofs.Session.Agreement
import SqlCompose.Proofs.Session.Outcome
/-!
# Membership in lists

Whichever operands a list of values comes from, `IN` and `NOT IN` write one entry for each value,
in order: the word `NULL` for a null, and otherwise a placeholder that was free and has got this
very value. `Session.Lists` says so of what is written between two allocators, and also that
nothing else was bound.

A list is written value by value. One value is `Session.exists_lists_entry`, and lists behind one
another are one list (`Session.Lists.trans`), so the lists of a whole condition come by induction:
over the values of a single column (`Session.exists_lists_mapM`), and over the rows of several
columns (`Session.exists_lists_tuples`). What stands around the entries depends on their number
alone (`Dialect.writeListed_eq`).
-/

namespace SqlCompose

/-! ### Operands of a membership -/

namespace Operand

variable {κ θ : Type} {op : Operator} {name : String} {vs : List Value}

/-- A list that is read lists nothing if there is no value. -/
theorem listsNothing_eq {right : Operand κ θ} (h : right.memberValues op name = .ok vs) :
    right.listsNothing = vs.isEmpty := by
  cases right with
  | values | value | expr =>
    cases h
    rfl
  | rows rs =>
    cases h
    rw [List.isEmpty_map]
    rfl
  | _ => cases h

/-- What a row has for a column is the first value under its name, or null. -/
theorem valueIn_eq_lookup (row : List (String × Value)) (name : String) :
    valueIn row name = (row.lookup name).getD .null := by
  induction row with
  | nil => rfl
  | cons p row ih =>
    rw [valueIn, List.find?_cons, List.lookup_cons]
    by_cases hp : p.1 = name
    · simp [hp]
    · rw [beq_false_of_ne hp, beq_false_of_ne (Ne.symm hp)]
      exact ih

end Operand

theorem Value.isNull_iff {v : Value} : v.isNull = true ↔ v = .null := by
  cases v <;> simp [Value.isNull]

/-! ### Entries -/

namespace Session

/-- The bindings that a list of entries asks for: those of the values that are not null. -/
def bindings (es : List String) (vs : List Value) : List (String × Value) :=
  (es.zip vs).filter fun p => !p.2.isNull

/-- What an entry says about the value that it stands for, if a list is written from `a`
to `a'`. -/
inductive StandsFor (a a' : Allocator) : String → Value → Prop
  | null : StandsFor a a' "NULL" .null
  /-- A placeholder whose name was free, and has got this very value. -/
  | placeholder {n : Nat} {v : Value} (hnull : v ≠ .null)
      (hfree : placeholderName n ∉ a.params.keys)
      (hvalue : a'.params.get? (placeholderName n) = some v) :
      StandsFor a a' (placeholderName n) v

/-- **A list is written** from `a` to `a'` with one entry for each value, in order. -/
structure Lists (a a' : Allocator) (es : List String) (vs : List Value) : Prop where
  standsFor : List.Forall₂ (StandsFor a a') es vs
  /-- Behind what was bound before, the values that are not null are bound to their entries,
  and nothing else is. -/
  bound : a'.params.entries = a.params.entries ++ bindings es vs
  /-- No two values share a placeholder. -/
  distinct : ((bindings es vs).map Prod.fst).Nodup

theorem bindings_append {es : List String} {vs : List Value} (h : es.length = vs.length)
    (es' : List String) (vs' : List Value) :
    bindings (es ++ es') (vs ++ vs') = bindings es vs ++ bindings es' vs' := by
  rw [bindings, List.zip_append h, List.filter_append]
  rfl

variable {a a' a'' : Allocator} {es es' : List String} {vs vs' : List Value}

/-- A name that is bound for a list was free before. -/
theorem Lists.free (h : Lists a a' es vs) {name : String}
    (hname : name ∈ (bindings es vs).map Prod.fst) : name ∉ a.params.keys := by
  obtain ⟨⟨e, v⟩, hp, rfl⟩ := List.mem_map.mp hname
  obtain ⟨hmem, hnull⟩ := List.mem_filter.mp hp
  -- the value is not null, so its entry is a placeholder
  cases (List.forall₂_iff_zip.mp h.standsFor).2 hmem with
  | null => cases hnull
  | placeholder _ hfree _ => exact hfree

theorem Lists.keys_eq (h : Lists a a' es vs) :
    a'.params.keys = a.params.keys ++ (bindings es vs).map Prod.fst := by
  rw [Params.keys, h.bound, List.map_append]
  rfl

/-- Writing on, the values that are bound keep their placeholders. -/
theorem StandsFor.mono {e : String} {v : Value} (h : StandsFor a a' e v)
    (h' : Lists a' a'' es' vs') : StandsFor a a'' e v := by
  cases h with
  | null => exact .null
  | placeholder hnull hfree hvalue =>
    refine .placeholder hnull hfree ?_
    rw [Params.get?, h'.bound, List.find?_append]
    obtain ⟨p, hp, hv⟩ := Option.map_eq_some_iff.mp hvalue
    rw [hp, Option.some_or, Option.map_some, hv]

/-- What is free behind a list was free in front of it. -/
theorem StandsFor.behind {e : String} {v : Value} (h : Lists a a' es vs)
    (h' : StandsFor a' a'' e v) : StandsFor a a'' e v := by
  cases h' with
  | null => exact .null
  | placeholder hnull hfree hvalue =>
    refine .placeholder hnull (fun hmem => hfree ?_) hvalue
    rw [h.keys_eq]
    exact List.mem_append_left _ hmem

/-- Two lists, one behind the other, are one list. -/
theorem Lists.trans (h : Lists a a' es vs) (h' : Lists a' a'' es' vs') :
    Lists a a'' (es ++ es') (vs ++ vs') := by
  have hsplit := bindings_append h.standsFor.length_eq es' vs'
  refine ⟨?_, ?_, ?_⟩
  · exact List.rel_append (h.standsFor.imp fun e v hev => hev.mono h')
      (h'.standsFor.imp fun e v hev => hev.behind h)
  · rw [h'.bound, h.bound, hsplit, List.append_assoc]
  · rw [hsplit, List.map_append]
    refine h.distinct.append h'.distinct fun name hname hname' => h'.free hname' ?_
    -- the names of the first list are taken when the second one starts
    rw [h.keys_eq]
    exact List.mem_append_right _ hname

theorem lists_nil (a : Allocator) : Lists a a [] [] :=
  ⟨.nil, (List.append_nil _).symm, .nil⟩

/-- One value is written as one entry. -/
theorem exists_lists_entry (v : Value) (a : Allocator) :
    ∃ e a', (entry v).runFrom a = (.ok e, a') ∧ Lists a a' [e] [v] := by
  by_cases hv : v.isNull = true
  · -- a null is a word, and nothing is bound
    refine ⟨"NULL", a, ?_, ?_, ?_, ?_⟩
    · rw [entry, if_pos hv]
      rfl
    · rw [Value.isNull_iff.mp hv]
      exact .cons .null .nil
    · simp [bindings, hv]
    · simp [bindings, hv]
  · refine ⟨(a.bind v).1, (a.bind v).2, ?_, ?_, ?_, ?_⟩
    · rw [entry, if_neg hv]
      rfl
    · refine .cons (.placeholder (mt Value.isNull_iff.mpr hv) a.placeholderName_free ?_) .nil
      exact (a.grows_bind v).get?_eq (e := (placeholderName a.free, v)) List.mem_cons_self
    · rw [a.bind_snd_entries]
      simp [bindings, hv, a.bind_fst]
    · simp [bindings, hv]

/-- **Writing values** is writing a list of entries. -/
theorem exists_lists_mapM (vs : List Value) (a : Allocator) :
    ∃ es a', (vs.mapM entry).runFrom a = (.ok es, a') ∧ Lists a a' es vs := by
  induction vs generalizing a with
  | nil => exact ⟨[], a, rfl, lists_nil a⟩
  | cons v vs ih =>
    obtain ⟨e, a₁, hentry, hfirst⟩ := exists_lists_entry v a
    obtain ⟨es, a', hrun, hrest⟩ := ih a₁
    refine ⟨e :: es, a', ?_, hfirst.trans hrest⟩
    rw [List.mapM_cons, runFrom_bind_of_ok hentry, runFrom_bind_of_ok hrun]
    rfl

/-- The values of a row for some columns, in their order: for each column the first value that
the row has under its name, and null if there is none. -/
def valuesFor (names : List String) (row : List (String × Value)) : List Value :=
  names.map fun name => (row.lookup name).getD .null

/-- The text of one row of entries. -/
def tupleText (es : List String) : String := "(" ++ Text.join ", " es ++ ")"

theorem tuple_eq (names : List String) (row : List (String × Value)) :
    tuple names row = (valuesFor names row).mapM entry >>= fun es => pure (tupleText es) := by
  rw [valuesFor, List.mapM_map, tuple]
  simp only [Operand.valueIn_eq_lookup]
  rfl

/-- **Writing rows** is writing a list of entries, row by row. -/
theorem exists_lists_tuples (names : List String) (rows : List (List (String × Value)))
    (a : Allocator) :
    ∃ ess a', (rows.mapM (tuple names)).runFrom a = (.ok (ess.map tupleText), a') ∧
      List.Forall₂ (fun es row => List.Forall₂ (StandsFor a a') es (valuesFor names row)) ess rows ∧
      Lists a a' ess.flatten (rows.flatMap (valuesFor names)) := by
  induction rows generalizing a with
  | nil => exact ⟨[], a, rfl, .nil, lists_nil a⟩
  | cons row rows ih =>
    obtain ⟨es, a₁, hrow, hfirst⟩ := exists_lists_mapM (valuesFor names row) a
    obtain ⟨ess, a', hrun, heach, hrest⟩ := ih a₁
    have htuple : (tuple names row).runFrom a = (.ok (tupleText es), a₁) := by
      rw [tuple_eq, runFrom_bind_of_ok hrow]
      rfl
    -- over the whole run: the first entries are kept behind it, and the others are bound later
    refine ⟨es :: ess, a', ?_, .cons ?_ ?_, hfirst.trans hrest⟩
    · rw [List.mapM_cons, runFrom_bind_of_ok htuple, runFrom_bind_of_ok hrun]
      rfl
    · exact hfirst.standsFor.imp fun e v hev => hev.mono hrest
    · exact heach.imp fun es row h => h.imp fun e v hev => hev.behind hfirst

end Session

namespace Dialect

variable (d : Dialect)

/-- The text of a column in a list of entries. A single one is compared directly, and none at
all is the condition that nothing satisfies or, for `NOT IN`, no condition. -/
def listText (op : Operator) (column : String) : List String → String
  | [] => if op = .notIn then "" else "0=1"
  | [e] => d.column column ++ (if op = .notIn then "<>" else "=") ++ e
  | es => d.column column ++ " " ++ op.text ++ " (" ++ Text.join ", " es ++ ")"

/-- The text of several columns in a list of rows of entries. -/
def rowsText (op : Operator) (names : List String) (ess : List (List String)) : String :=
  "(" ++ d.columns names ++ ") " ++ op.text ++ " (" ++
    Text.join ", " (ess.map Session.tupleText) ++ ")"

/-- A list of any length is written entry by entry. -/
theorem writeListed_eq (op : Operator) (column : String) (vs : List Value) :
    d.writeListed op column vs =
      vs.mapM Session.entry >>= fun es => pure (d.listText op column es) := by
  rcases vs with _ | ⟨v, _ | ⟨v', vs⟩⟩
  · by_cases hop : op = .notIn <;> simp [writeListed, listText, Session.emptyList, hop]
  · by_cases hop : op = .notIn <;> simp [writeListed, listText, hop]
  · simp [writeListed, listText]

/-- A single column is looked for in the values of a list. -/
theorem writeMembership_single {op : Operator} {name : String} {vs : List Value}
    {left right : Operand (Session String) (Session String)}
    (hleft : left.memberColumns op = .ok [name]) (hright : right.memberValues op name = .ok vs) :
    d.writeMembership op [left, right] = d.writeListed op name vs := by
  have hcolumn : d.writeMembership op [left, right] = d.writeMemberOf op [name] right := by
    rw [writeMembership, hleft]
    rfl
  rw [hcolumn]
  -- an empty list is caught in front of the shapes of the right-hand side
  unfold writeMemberOf
  rw [List.isEmpty_cons, Bool.false_or, Operand.listsNothing_eq hright]
  cases vs with
  | nil => rfl
  | cons v vs =>
    rw [if_neg (by simp)]
    cases right with
    | values | value | expr | rows =>
      dsimp only
      rw [hright]
      rfl
    | _ => cases hright

/-- Rows for several columns are written row by row. -/
theorem writeMembership_rows {op : Operator} {names : List String}
    {rows : List (List (String × Value))} (hnames : 2 ≤ names.length) (hrows : rows ≠ []) :
    d.writeMembership op [.columns names, .rows rows] =
      rows.mapM (Session.tuple names) >>= fun texts =>
        pure ("(" ++ d.columns names ++ ") " ++ op.text ++ " (" ++ Text.join ", " texts ++ ")") := by
  obtain ⟨name, name', names, rfl⟩ : ∃ n n' ns, names = n :: n' :: ns := by
    rcases names with _ | ⟨n, _ | ⟨n', ns⟩⟩
    · simp at hnames
    · simp at hnames
    · exact ⟨n, n', ns, rfl⟩
  cases rows with
  | nil => exact absurd rfl hrows
  | cons row rows => rfl

end Dialect

namespace Target

variable (t : Target)

theorem writeCondition_membership {op : Operator} (hop : op = .isIn ∨ op = .notIn)
    (left right : Operand Condition Query) :
    t.writeCondition (.operator op [left, right]) =
      t.dialect.writeMembership op [left.map t.writeCondition t.write,
        right.map t.writeCondition t.write] := by
  rw [Condition.operator, writeCondition, Condition.fold_mk]
  rcases hop with rfl | rfl <;> rfl

/-- Whatever operands a list of values for a single column comes from, it is written alike. -/
theorem writeCondition_single {op : Operator} (hop : op = .isIn ∨ op = .notIn)
    {left right : Operand Condition Query} {column : String} {vs : List Value}
    (hleft : left.memberColumns op = .ok [column])
    (hright : right.memberValues op column = .ok vs) :
    t.writeCondition (.operator op [left, right]) = t.dialect.writeListed op column vs := by
  rw [t.writeCondition_membership hop]
  refine t.dialect.writeMembership_single ?_ ?_
  · rw [Operand.memberColumns_map, hleft]
  · rw [Operand.memberValues_map, hright]

theorem writeCondition_pair (column : String) (v : HashValue Query) :
    t.writeCondition (.hash [(column, v)]) = t.dialect.writePair column (v.map t.write) := by
  have hlayer : t.writeCondition (.hash [(column, v)]) =
      t.dialect.writeHash [(column, v.map t.write)] := by
    rw [Condition.hash, writeCondition, Condition.fold_mk]
    rfl
  rw [hlayer, Dialect.writeHash, List.mapM_cons]
  simp only [List.mapM_nil, bind_assoc, pure_bind, bind_pure]

/-- **Lists of values.** From every allocator, a membership of a single column is written with one
entry for each value of its right-hand side, and one of several columns with one entry for each
column of each row. The values are bound to their entries in order, and nothing else is bound.

For a single column, rows are the list of the values that they have for it. A column of a hash
condition that has a list or a query on its right-hand side is the membership in it, alone or among
other columns. -/
theorem lists_each_value {op : Operator} (hop : op = .isIn ∨ op = .notIn) :
    (∀ {left right : Operand Condition Query} {column : String} {vs : List Value},
      left.memberColumns op = .ok [column] → right.memberValues op column = .ok vs → ∀ a,
      ∃ es a', (t.writeCondition (.operator op [left, right])).runFrom a =
          (.ok (t.dialect.listText op column es), a') ∧ Session.Lists a a' es vs) ∧
    (∀ {names : List String} {rows : List (List (String × Value))},
      2 ≤ names.length → rows ≠ [] → ∀ a,
      ∃ ess a', (t.writeCondition (.operator op [.columns names, .rows rows])).runFrom a =
          (.ok (t.dialect.rowsText op names ess), a') ∧
        List.Forall₂ (fun es row =>
          List.Forall₂ (Session.StandsFor a a') es (Session.valuesFor names row)) ess rows ∧
        Session.Lists a a' ess.flatten (rows.flatMap (Session.valuesFor names))) ∧
    (∀ column rows, t.writeCondition (.operator op [.columns [column], .rows rows]) =
      t.writeCondition (.operator op
        [.expr column, .values (rows.map fun row => (row.lookup column).getD .null)])) ∧
    (∀ column vs,
      t.dialect.writePair column (.list vs) = t.writeCondition (.isIn column vs) ∧
      t.writeCondition (.hash [(column, .list vs)]) = t.writeCondition (.isIn column vs)) ∧
    ∀ column q,
      t.dialect.writePair column (.query (t.write q)) = t.writeCondition (.isInQuery column q) ∧
      t.writeCondition (.hash [(column, .query q)]) = t.writeCondition (.isInQuery column q) := by
  refine ⟨?_, ?_, ?_, ?_, ?_⟩
  · -- a single column: the values are written first, and the text only reads their entries
    intro left right column vs hleft hright a
    obtain ⟨es, a', hrun, hlists⟩ := Session.exists_lists_mapM vs a
    refine ⟨es, a', ?_, hlists⟩
    rw [t.writeCondition_single hop hleft hright, t.dialect.writeListed_eq,
      Session.runFrom_bind_of_ok hrun]
    rfl
  · -- several columns: the same, row by row; `hlists` has the entries of all rows in one list
    intro names rows hnames hrows a
    obtain ⟨ess, a', hrun, heach, hlists⟩ := Session.exists_lists_tuples names rows a
    refine ⟨ess, a', ?_, heach, hlists⟩
    rw [t.writeCondition_membership hop]
    -- `writeMembership_rows` is about the operands as they are, and here they stand under `map`
    refine (congrArg (Session.runFrom · a)
      (t.dialect.writeMembership_rows hnames hrows)).trans ?_
    rw [Session.runFrom_bind_of_ok hrun]
    rfl
  · -- one column in rows: both sides are the list of the same values
    intro column rows
    have hcolumns : (Operand.columns [column] : Operand Condition Query).memberColumns op =
        .ok [column] := rfl
    have hcolumn : (Operand.expr column : Operand Condition Query).memberColumns op =
        .ok [column] := rfl
    rw [t.writeCondition_single hop hcolumns rfl, t.writeCondition_single hop hcolumn rfl]
    simp only [Operand.valueIn_eq_lookup]
  · -- a list in a hash condition is written by the writer of `IN`, and alone it is the condition
    intro column vs
    have hpair : t.dialect.writePair column (.list vs) = t.writeCondition (.isIn column vs) :=
      (t.writeCondition_single (Or.inl rfl) rfl rfl).symm
    exact ⟨hpair, (t.writeCondition_pair column (.list vs)).trans hpair⟩
  · -- a query likewise; its operands need no reading, so this is one layer unfolded
    intro column q
    have hpair : t.dialect.writePair column (.query (t.write q)) =
        t.writeCondition (.isInQuery column q) :=
      (t.writeCondition_membership (Or.inl rfl) (.expr column) (.query q)).symm
    exact ⟨hpair, (t.writeCondition_pair column (.query q)).trans hpair⟩

/-- A list in which a null stands between two equal values, and rows that have a column twice or
not at all, where the first placeholder is taken. -/
theorem lists_each_value_nulls :
    let t : Target := { dialect := Dialect.mysql }
    let a : Allocator := ⟨.ofList [(":qp0", .int 7)], 0⟩
    let left : Operand Condition Query := .columns ["a"]
    let vs : List Value := [.int 1, .null, .int 1]
    let right : Operand Condition Query := .values vs
    let names : List String := ["a", "b"]
    let rows : List (List (String × Value)) := [[("b", .int 1), ("b", .int 2)], [("a", .null)]]
    (Operator.notIn = .isIn ∨ Operator.notIn = .notIn) ∧
      left.memberColumns .notIn = .ok ["a"] ∧ right.memberValues .notIn "a" = .ok vs ∧
      2 ≤ names.length ∧ rows ≠ [] ∧
      ((t.writeCondition (.operator .notIn [left, right])).runFrom a).1.toOption =
        some "\x60a\x60 NOT IN (:qp1, NULL, :qp2)" ∧
      (∃ es a', (t.writeCondition (.operator .notIn [left, right])).runFrom a =
          (.ok (t.dialect.listText .notIn "a" es), a') ∧ Session.Lists a a' es vs) ∧
      ∃ ess a', (t.writeCondition (.operator .notIn [.columns names, .rows rows])).runFrom a =
          (.ok (t.dialect.rowsText .notIn names ess), a') ∧
        Session.Lists a a' ess.flatten [.null, .int 1, .null, .null] := by
  intro t a left vs right names rows
  have hop : Operator.notIn = .isIn ∨ Operator.notIn = .notIn := Or.inr rfl
  have hleft : left.memberColumns .notIn = .ok ["a"] := rfl
  have hright : right.memberValues .notIn "a" = .ok vs := rfl
  have hnames : 2 ≤ names.length := by decide
  have hrows : rows ≠ [] := List.cons_ne_nil _ _
  obtain ⟨hvalues, htuples, -⟩ := lists_each_value t hop
  obtain ⟨ess, a', hrun, -, hlists⟩ := htuples hnames hrows a
  exact ⟨hop, hleft, hright, hnames, hrows, by decide +kernel, hvalues hleft hright a, ess, a',
    hrun, hlists⟩

end Target

end SqlCompose

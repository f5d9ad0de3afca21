import SqlCompose.Proofs.Positional.Clause
import SqlCompose.Proofs.Session.Agreement
/-!
# Translating a built statement loses nothing

A statement with named placeholders is translated into one with positional markers
before it is sent. `Target.toPositional_of_build` says what comes out for a query whose
texts are clean: the template that was written, with markers in place of placeholders,
and the values that were bound, in their order. Neither depends on the seed, although
the names of the placeholders do.
-/

namespace SqlCompose

namespace Target

open Positional

/-- With the blank between clauses, statements of the three dialects are readable. -/
theorem reads_of_mem {d : Dialect} (hd : d ∈ [Dialect.mysql, Dialect.postgres, Dialect.brackets]) :
    Reads { dialect := d } := by
  have hquotes : d.Quotes := by
    simp only [List.mem_cons, List.not_mem_nil, or_false] at hd
    rcases hd with rfl | rfl | rfl
    · exact Dialect.quotes_mysql
    · exact Dialect.quotes_postgres
    · exact Dialect.quotes_brackets
  exact ⟨hquotes, delimits_blank.neutral, delimits_blank.apart⟩

/-- A readable fragment that was filled by a run of bindings is translated to its template
with markers and to its values. -/
theorem toPositional_fill {f : Fragment} (hf : f.Readable) {a a' : Allocator} {ns : List Nat}
    (hgrows : a.Grows a' ns f.values) (style : PlaceholderStyle) :
    a'.params.toPositional (f.template.fill (ns.map placeholderName)) style =
      .ok ⟨f.template.fill (markers style f.values.length), f.values⟩ := by
  -- at the start nothing is numbered
  have hstart : numberedBehind style (([] : List Nat).map placeholderName) = [] := by
    cases style <;> rfl
  have hscan : scan a'.params style ⟨.plain, []⟩
      (f.template.fill (ns.map placeholderName)).toList =
        .ok ⟨(f.template.fill (markers style f.values.length)).toList, f.values⟩ := by
    rw [markers, List.range_eq_range', ← hgrows.length, ← hstart]
    exact Fragment.scan_fill hf [] hgrows.length (fun e he => hgrows.get?_eq he)
      (hgrows.increasing.imp Nat.ne_of_lt)
  rw [Params.toPositional, hscan]
  simp [Except.map, String.ofList_toList]

/-- **Translation loses nothing.** For a query with clean texts there are a template and
values, such that over every seed the statement is the template with placeholders, the
values are bound to them in this order, and its translation is the template with markers
and the same values. -/
theorem toPositional_of_build {d : Dialect}
    (hd : d ∈ [Dialect.mysql, Dialect.postgres, Dialect.brackets]) {q : Query}
    (hq : ∀ s ∈ q.texts, Clean s) :
    ∃ (T : Template) (V : List Value), T.holes = V.length ∧
      ∀ (seed : Params) (st : Statement), build { dialect := d } q seed = .ok st →
        (∃ ns : List Nat, ns.length = V.length ∧ ns.Pairwise (· < ·) ∧
          st.sql = T.fill (ns.map placeholderName) ∧
          st.params.entries =
            (q.collectParams seed).entries ++ (ns.map placeholderName).zip V) ∧
        ∀ style, st.params.toPositional st.sql style =
          .ok ⟨T.fill (markers style V.length), V⟩ := by
  have hreadable := (readable_of_clean (reads_of_mem hd)).2 q hq
  cases hcompiled : query { dialect := d } q with
  | error r =>
    -- nothing is built over any seed
    refine ⟨[], [], rfl, fun seed st h => ?_⟩
    rw [build_eq, hcompiled] at h
    cases h
  | ok f =>
    refine ⟨f.template, f.values, f.holes_template, fun seed st h => ?_⟩
    -- over this seed, the slots get these numbers
    obtain ⟨ns, hgrows, htext⟩ :=
      Fragment.exists_grows_fill f (Allocator.new (q.collectParams seed))
    rw [build_eq, hcompiled] at h
    cases h
    change (∃ ns : List Nat, ns.length = f.values.length ∧ ns.Pairwise (· < ·) ∧
      (f.fill _).1 = f.template.fill (ns.map placeholderName) ∧ (f.fill _).2.params.entries = _) ∧
        ∀ style, (f.fill _).2.params.toPositional (f.fill _).1 style = _
    refine ⟨⟨ns, hgrows.length, hgrows.increasing, htext, hgrows.entries⟩, fun style => ?_⟩
    rw [htext]
    exact toPositional_fill (hreadable f hcompiled) hgrows style

/-- A range and a subquery, over a seed that has the first name: whatever the names are, the
markers are numbered from one. -/
theorem toPositional_of_build_range :
    let r : Query := ⟨{ tables := [.bare "o"], filter := some ⟨.hash [("b", .value (.int 3))]⟩ }⟩
    let q : Query := ⟨{
      tables := [.bare "t"]
      filter := some ⟨.operator .and
        [.condition ⟨.operator .between [.expr "a", .value (.int 1), .expr "it's"]⟩,
          .condition ⟨.operator .hasRow [.query r]⟩]⟩ }⟩
    let seed : Params := ⟨[(":qp1", .int 7)]⟩
    (∀ s ∈ q.texts, Clean s) ∧ ∃ (st : Statement) (T : Template) (V : List Value),
      build { dialect := Dialect.postgres } q seed = .ok st ∧
      (∀ style, st.params.toPositional st.sql style = .ok ⟨T.fill (markers style V.length), V⟩) ∧
      (st.params.toPositional st.sql .dollar).toOption.map (·.sql) =
        some ("SELECT * FROM \"t\" WHERE (\"a\" BETWEEN $1 AND $2) AND " ++
          "(EXISTS (SELECT * FROM \"o\" WHERE \"b\"=$3))") := by
  intro r q seed
  have hclean : ∀ s ∈ q.texts, Clean s := by decide +kernel
  obtain ⟨T, V, -, hbuild⟩ := toPositional_of_build (d := Dialect.postgres) (by simp) hclean
  exact ⟨hclean, _, T, V, rfl, (hbuild seed _ rfl).2, by decide +kernel⟩

end Target

end SqlCompose

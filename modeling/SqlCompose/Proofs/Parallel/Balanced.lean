import SqlCompose.Condition.Build
import SqlCompose.Dialect.Brackets
import SqlCompose.Dialect.MySql
import SqlCompose.Dialect.Postgres
import SqlCompose.Proofs.Parallel.Clause
import SqlCompose.Proofs.Text.Balance
/-!
# Statements with balanced parentheses

Whatever is nested in a query, the parentheses of its statement match if those of every text in
it do (`Target.balanced_of_build`). A target is similar to itself with respect to being balanced
(`Dialect.KeepsBalance.similar`), for what the compiler writes by itself are words without
parentheses and pairs of parentheses around a text, and the names that it takes apart have none.

This leaves the quoting of a part of a name, which has no parentheses either
(`Dialect.KeepsBalance`).
-/

namespace SqlCompose

open Text (Balanced NoParens)

theorem Text.OwnWord.noParens {s : String} (hs : Text.OwnWord s) : NoParens s :=
  ⟨fun hmem => absurd (hs _ hmem) (by decide), fun hmem => absurd (hs _ hmem) (by decide)⟩

namespace Dialect

/-- **Quoting that keeps texts balanced**, for parts of names that have no parentheses. -/
structure KeepsBalance (d : Dialect) : Prop where
  tablePart : ∀ part, NoParens part → Balanced (d.quoteTablePart part)
  columnPart : ∀ part, NoParens part → Balanced (d.quoteColumnPart part)

/-- Quote characters are no parentheses. -/
theorem noParens_wrapTablePart {quote : Char} (hquote : Positional.isQuote quote = true)
    {part : String} (hpart : NoParens part) : NoParens (wrapTablePart quote part) := by
  have hne : ∀ c, Positional.isQuote c = false → c ≠ quote := by
    rintro c hc rfl
    rw [hquote] at hc
    cases hc
  exact ⟨notMem_wrapTablePart_of_ne (hne '(' rfl) hpart.1,
    notMem_wrapTablePart_of_ne (hne ')' rfl) hpart.2⟩

theorem QuotesWith.keepsBalance {d : Dialect} {q : Char} (hd : d.QuotesWith q) :
    d.KeepsBalance where
  tablePart part hpart := by
    rw [hd.tablePart]
    exact (noParens_wrapTablePart hd.isQuote hpart).balanced
  columnPart part hpart := by
    rw [hd.columnPart]
    exact wrapColumnPart_cases hpart.balanced (noParens_wrapTablePart hd.isQuote hpart).balanced

theorem keepsBalance_brackets : KeepsBalance brackets := by
  have hpart : ∀ part, NoParens part → Balanced (bracketed part) := by
    intro part hpart
    have hopen : Balanced "[" := by decide
    have hclose : Balanced "]" := by decide
    exact (hopen.append hpart.balanced).append hclose
  exact ⟨hpart, hpart⟩

theorem keepsBalance_of_mem {d : Dialect} (h : d ∈ [mysql, postgres, brackets]) :
    d.KeepsBalance := by
  simp only [List.mem_cons, List.not_mem_nil, or_false] at h
  rcases h with rfl | rfl | rfl
  · exact (quotesWith_of_mem (q := '\x60') (by simp)).keepsBalance
  · exact (quotesWith_of_mem (q := '\x22') (by simp)).keepsBalance
  · exact keepsBalance_brackets

/-- **What is balanced** stays so in everything that is written of it. -/
theorem KeepsBalance.similar {d : Dialect} (hd : d.KeepsBalance) {separator : String}
    (hseparator : Balanced separator) :
    Target.Similar Balanced (fun s s' => s = s' ∧ Balanced s) ⟨d, separator⟩ ⟨d, separator⟩ where
  append hs hu := ⟨congrArg₂ (· ++ ·) hs.1 hu.1, hs.2.append hu.2⟩
  enclosed hs := ⟨by rw [hs.1], hs.2.enclosed⟩
  isEmpty hs := by rw [hs.1]
  word hs := ⟨rfl, (Text.OwnWord.noParens hs).balanced⟩
  given hs := ⟨rfl, hs⟩
  part hs hopen hsub := (hs.noParens_of_subset hopen hsub).balanced
  trim hs := hs.trim
  tablePart hpart hopen :=
    ⟨rfl, hd.tablePart _ (hpart.noParens_of_subset hopen (List.Subset.refl _))⟩
  columnPart hpart hopen :=
    ⟨rfl, hd.columnPart _ (hpart.noParens_of_subset hopen (List.Subset.refl _))⟩
  separator := ⟨rfl, hseparator⟩

end Dialect

namespace Target

/-- **The parentheses of a statement match.** Under each of the dialects, and under every other
one whose quoting adds no parentheses, the statement of a query is balanced if every text in the
query is, at any depth, and the separator has no parentheses. -/
theorem balanced_of_build :
    (∀ d ∈ [Dialect.mysql, Dialect.postgres, Dialect.brackets], d.KeepsBalance) ∧
      ∀ (d : Dialect) (separator : String) (q : Query) (seed : Params) (st : Statement),
        d.KeepsBalance → NoParens separator → (∀ s ∈ q.texts, Balanced s) →
          build ⟨d, separator⟩ q seed = .ok st → Balanced st.sql := by
  refine ⟨fun d hd => Dialect.keepsBalance_of_mem hd, ?_⟩
  intro d separator q seed st hd hseparator htexts hbuild
  have hrelated := (hd.similar hseparator.balanced).related.2 q htexts
  rcases build_of_related hrelated seed with ⟨e, herror, -⟩ | ⟨st₁, st₂, hsql, -, hok, -⟩
  · rw [hbuild] at herror
    cases herror
  · rw [hbuild] at hok
    cases hok
    exact hsql.2

/-- Calls of functions, subqueries, rows, a negation and a union. Values with parentheses are
bound, and an alias with parentheses is left as it is. -/
theorem balanced_of_build_nested :
    let inner : Query := ⟨{
      select := [.bare "max(x) m", .aliased "n" "f(y, g(z))"]
      tables := [.bare "v.w AS u"]
      filter := some (.eq "k" (.value (.string ")("))) }⟩
    let q : Query := ⟨{
      select := [.bare "a.b AS c", .subquery "n" inner]
      tables := [.bare "s.t u", .subquery "f()" inner]
      filter := some (.and [.isInQuery "x" inner,
        .isInRows ["a", "b"] [[("a", .int 1)], [("b", .int 2)]], .not (.raw "(y) = (z)"),
        .like "l" [.string ")"]])
      unions := [⟨.query inner, true⟩] }⟩
    NoParens "\n" ∧ (∀ s ∈ q.texts, Balanced s) ∧
      ∃ st, build ⟨Dialect.mysql, "\n"⟩ q .empty = .ok st ∧ Balanced st.sql := by
  intro inner q
  have htexts : ∀ s ∈ q.texts, Balanced s := by decide +kernel
  refine ⟨by decide, htexts, ?_⟩
  cases hbuild : build ⟨Dialect.mysql, "\n"⟩ q .empty with
  | error e =>
    have hok : (build ⟨Dialect.mysql, "\n"⟩ q .empty).isOk = true := by decide +kernel
    rw [hbuild] at hok
    cases hok
  | ok st =>
    exact ⟨st, rfl, balanced_of_build.2 _ _ q _ st (balanced_of_build.1 _ (by simp)) (by decide)
      htexts hbuild⟩

end Target

end SqlCompose

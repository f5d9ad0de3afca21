import SqlCompose.Condition.Build
import SqlCompose.Dialect.Brackets
import SqlCompose.Dialect.MySql
import SqlCompose.Dialect.Postgres
import SqlCompose.Proofs.Parallel.Clause
/-!
# Statements with another separator

The text between clauses is a blank, or another white space such as a line break. A dialect with
the one and with the other is two targets, and these are parallel (`Dialect.AddsNo.parallel`):
what they write is the same text up to the white space that stands between clauses, if the texts of
the caller do not have it. What the library writes by itself has no white space but blanks
(`Text.eq_blank_of_isOwn`), so all that is left is the quoting of names (`Dialect.AddsNo`).

`Target.separator_is_layout` puts this together for whole statements.
-/

namespace SqlCompose

/-- The only white space in what the library writes is the blank. -/
theorem Text.eq_blank_of_isOwn {c : Char} (hown : Text.isOwn c = true)
    (hblank : Text.isBlank c = true) : c = ' ' := by
  have hrange : 0x20 ≤ c.toNat ∧ c.toNat ≤ 0x7E := by
    simp only [Text.isOwn, Bool.and_eq_true, decide_eq_true_eq, Char.le_def] at hown
    exact hown.1.1
  simp only [Text.isBlank, Bool.or_eq_true, Bool.and_eq_true, decide_eq_true_eq, beq_iff_eq]
    at hblank
  -- no other white space has its code in this range
  have hcode : c.toNat = ' '.toNat := by
    change c.toNat = 0x20
    omega
  exact Char.toNat_inj.mp hcode

namespace Dialect

/-- **Quoting without a character**: parts of names that do not have it are quoted without it. -/
structure AddsNo (d : Dialect) (w : Char) : Prop where
  tablePart : ∀ part, w ∉ part.toList → w ∉ (d.quoteTablePart part).toList
  columnPart : ∀ part, w ∉ part.toList → w ∉ (d.quoteColumnPart part).toList

theorem QuotesWith.addsNo {d : Dialect} {q w : Char} (hd : d.QuotesWith q) (hw : w ≠ q) :
    d.AddsNo w where
  tablePart part hpart := by
    rw [hd.tablePart]
    exact notMem_wrapTablePart_of_ne hw hpart
  columnPart part hpart := by
    rw [hd.columnPart]
    exact wrapColumnPart_cases (p := fun s => w ∉ s.toList) hpart
      (notMem_wrapTablePart_of_ne hw hpart)

theorem addsNo_brackets {w : Char} (hw : w ∉ ['[', ']']) : AddsNo brackets w := by
  have hpart : ∀ part, w ∉ part.toList → w ∉ (bracketed part).toList := by
    intro part hpart
    simpa [bracketed, hpart] using hw
  exact ⟨hpart, hpart⟩

/-- None of the dialects quotes with white space. -/
theorem addsNo_of_mem {d : Dialect} (hd : d ∈ [mysql, postgres, brackets]) {w : Char}
    (hw : Text.isBlank w = true) : d.AddsNo w := by
  have hne : ∀ c, Text.isBlank c = false → w ≠ c := by
    rintro c hc rfl
    rw [hw] at hc
    cases hc
  simp only [List.mem_cons, List.not_mem_nil, or_false] at hd
  rcases hd with rfl | rfl | rfl
  · exact (quotesWith_of_mem (q := '\x60') (by simp)).addsNo (hne _ (by decide))
  · exact (quotesWith_of_mem (q := '\x22') (by simp)).addsNo (hne _ (by decide))
  · exact addsNo_brackets (by simp [hne '[' (by decide), hne ']' (by decide)])

/-- **Only the separators** are different under a dialect with a blank between clauses and with
another white space. -/
theorem AddsNo.parallel {d : Dialect} {w : Char} (hd : d.AddsNo w)
    (hw : Text.isBlank w = true) :
    Target.Parallel (· ≠ w) (fun s s' => s' = Text.replaced w ' ' s)
      ⟨d, String.singleton w⟩ { dialect := d } where
  append {s s' u u'} hs hu := by rw [hs, hu, Text.replaced_append]
  isEmpty {s s'} hs := by rw [hs, Text.isEmpty_replaced]
  own hs := by
    -- if the white space is the blank, the library writes it, but nothing is replaced
    refine (Text.replaced_eq_self ?_).symm
    rintro c hc rfl
    exact Text.eq_blank_of_isOwn (hs c hc) hw
  given hs := (Text.replaced_of_notMem fun hmem => hs w hmem rfl).symm
  tablePart hpart := (Text.replaced_of_notMem (hd.tablePart _ fun hmem => hpart w hmem rfl)).symm
  columnPart hpart := (Text.replaced_of_notMem (hd.columnPart _ fun hmem => hpart w hmem rfl)).symm
  separator := by simp [Text.replaced]

end Dialect

namespace Target

/-- **The separator is layout.** Under each of the dialects, and under every other one whose
quoting adds no such white space, a query in which a white space stands in no text, at any depth,
either fails with the same error whether this or a blank separates the clauses, or has statements
with the same parameters, and the text with blanks is the other one with a blank in every place of
the white space. -/
theorem separator_is_layout :
    (∀ d ∈ [Dialect.mysql, Dialect.postgres, Dialect.brackets], ∀ w, Text.isBlank w = true →
      d.AddsNo w) ∧
      ∀ (d : Dialect) (w : Char) (q : Query) (seed : Params),
        Text.isBlank w = true → d.AddsNo w → (∀ s ∈ q.texts, w ∉ s.toList) →
          (∃ e, build ⟨d, String.singleton w⟩ q seed = .error e ∧
              build { dialect := d } q seed = .error e) ∨
            ∃ st st', build ⟨d, String.singleton w⟩ q seed = .ok st ∧
              build { dialect := d } q seed = .ok st' ∧ st.params = st'.params ∧
              st'.sql = Text.replaced w ' ' st.sql := by
  refine ⟨fun d hd w hw => Dialect.addsNo_of_mem hd hw, ?_⟩
  intro d w q seed hw hd htexts
  have hgiven : ∀ s ∈ q.texts, Text.Over (· ≠ w) s := by
    rintro s hs c hc rfl
    exact htexts s hs hc
  have hrelated := (hd.parallel hw).similar.related.2 q hgiven
  rcases build_of_related hrelated seed with herror | ⟨st, st', hsql, hparams, hw, hblank⟩
  · exact Or.inl herror
  · exact Or.inr ⟨st, st', hw, hblank, hparams, hsql⟩

/-- A join, a subquery and two unions, one of them of a text with blanks at its ends, under line
breaks. -/
theorem separator_is_layout_nested :
    let lines : Target := ⟨Dialect.postgres, String.singleton '\n'⟩
    let blanks : Target := { dialect := Dialect.postgres }
    let inner : Query := ⟨{
      select := [.bare "k"]
      tables := [.bare "v.w AS x"]
      filter := some (.eq "k" (.value (.string "\n")))
      limit := some 3 }⟩
    let q : Query := ⟨{
      select := [.bare "a.b AS c", .subquery "n" inner]
      tables := [.bare "s.t u"]
      joins := [⟨"LEFT JOIN", some (.bare "r"), some (.raw "r.k = u.k")⟩]
      filter := some (.isInQuery "x" inner)
      orderBy := [("a.b", .desc)]
      unions := [⟨.query inner, true⟩, ⟨.raw " SELECT 1 ", false⟩] }⟩
    Text.isBlank '\n' = true ∧ (∀ s ∈ q.texts, '\n' ∉ s.toList) ∧
      ∃ st st', lines.build q .empty = .ok st ∧ blanks.build q .empty = .ok st' ∧
        st.params = st'.params ∧ st'.sql = Text.replaced '\n' ' ' st.sql := by
  intro lines blanks inner q
  have hbreak : Text.isBlank '\n' = true := by decide
  have htexts : ∀ s ∈ q.texts, '\n' ∉ s.toList := by decide +kernel
  have hquoting := separator_is_layout.1 Dialect.postgres (by simp) '\n' hbreak
  refine ⟨hbreak, htexts, ?_⟩
  rcases separator_is_layout.2 Dialect.postgres '\n' q .empty hbreak hquoting htexts with
    ⟨e, hlines, -⟩ | hok
  · -- the query is one that has statements
    have hok : (lines.build q .empty).isOk = true := by decide +kernel
    rw [hlines] at hok
    cases hok
  · exact hok

end Target

end SqlCompose

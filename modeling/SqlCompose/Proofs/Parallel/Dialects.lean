import SqlCompose.Condition.Build
import SqlCompose.Dialect.MySql
import SqlCompose.Dialect.Postgres
import SqlCompose.Proofs.Parallel.Clause
/-!
# Two dialects, one statement

MySQL and PostgreSQL differ in the quote character of names only, so they are parallel in two
ways. Whatever the texts of a query, what they write is empty under both or under none
(`Dialect.parallel_isEmpty`), and no decision of the compiler depends on more than that. If no
text has a quote character of either, the text of the one is that of the other with its own
quote characters (`Dialect.parallel_requoted`).

`Target.dialects_agree` puts this together for whole statements.
-/

namespace SqlCompose

/-- A character that is no quote character of names. -/
def Text.isUnquoted (c : Char) : Bool := c != '\x60' && c != '\x22'

/-- A text with double quotes in place of its backticks. -/
def Text.requoted (s : String) : String :=
  String.ofList (s.toList.map fun c => if c = '\x60' then '\x22' else c)

namespace Text

theorem requoted_eq (s : String) : requoted s = replaced '\x60' '\x22' s := rfl

theorem notMem_of_own {s : String} (hs : Own s) : '\x60' ∉ s.toList :=
  fun hmem => absurd (hs _ hmem) (by decide)

theorem notMem_of_over {s : String} (hs : Over (isUnquoted · = true) s) {q : Char}
    (hq : isUnquoted q = false) : q ∉ s.toList := by
  intro hmem
  rw [hs q hmem] at hq
  cases hq

end Text

namespace Dialect

theorem isEmpty_wrapTablePart {quote : Char} (part : String) :
    (wrapTablePart quote part).isEmpty = false := by
  unfold wrapTablePart
  split
  · next hquote =>
    -- a part with a quote character is not empty
    rw [Bool.eq_false_iff, ne_eq, String.isEmpty_iff]
    rintro rfl
    cases hquote
  · rw [Text.isEmpty_append, Text.isEmpty_append]
    simp

theorem isEmpty_wrapColumnPart {quote : Char} (part : String) :
    (wrapColumnPart quote part).isEmpty = false := by
  unfold wrapColumnPart
  split
  · next h =>
    rw [h]
    rfl
  · exact isEmpty_wrapTablePart part

/-- **What is empty** does not depend on the quote character. -/
theorem parallel_isEmpty (separator : String) :
    Target.Parallel (fun _ => True) (fun s s' => s.isEmpty = s'.isEmpty) ⟨mysql, separator⟩
      ⟨postgres, separator⟩ where
  append {s s' u u'} hs hu := by rw [Text.isEmpty_append, Text.isEmpty_append, hs, hu]
  isEmpty hs := hs
  own _ := rfl
  given _ := rfl
  tablePart _ := (isEmpty_wrapTablePart _).trans (isEmpty_wrapTablePart _).symm
  columnPart _ := (isEmpty_wrapColumnPart _).trans (isEmpty_wrapColumnPart _).symm
  separator := rfl

/-- A part of a name without quote characters is put between the one or the other. -/
theorem requoted_wrapTablePart {part : String}
    (hpart : Text.Over (Text.isUnquoted · = true) part) :
    wrapTablePart '\x22' part = Text.requoted (wrapTablePart '\x60' part) := by
  have hhas : ∀ q, Text.isUnquoted q = false → Text.has q part = false := by
    intro q hq
    rw [Text.has, List.contains_eq_mem, decide_eq_false_iff_not]
    exact Text.notMem_of_over hpart hq
  have hpart' : Text.requoted part = part :=
    Text.replaced_of_notMem (Text.notMem_of_over hpart rfl)
  have hquote : Text.requoted (String.ofList ['\x60']) = String.ofList ['\x22'] := by
    rw [Text.requoted, String.toList_ofList]
    rfl
  rw [wrapTablePart, hhas _ rfl, wrapTablePart, hhas _ rfl]
  change _ = Text.requoted (String.ofList ['\x60'] ++ part ++ String.ofList ['\x60'])
  rw [Text.requoted_eq, Text.replaced_append, Text.replaced_append, ← Text.requoted_eq,
    ← Text.requoted_eq, hquote, hpart']
  rfl

theorem requoted_wrapColumnPart {part : String}
    (hpart : Text.Over (Text.isUnquoted · = true) part) :
    wrapColumnPart '\x22' part = Text.requoted (wrapColumnPart '\x60' part) := by
  unfold wrapColumnPart
  split
  · exact (Text.replaced_of_notMem (Text.notMem_of_over hpart rfl)).symm
  · exact requoted_wrapTablePart hpart

/-- **The quote character** is all that is different if no text has one. -/
theorem parallel_requoted {separator : String}
    (hseparator : Text.Over (Text.isUnquoted · = true) separator) :
    Target.Parallel (Text.isUnquoted · = true) (fun s s' => s' = Text.requoted s)
      ⟨mysql, separator⟩ ⟨postgres, separator⟩ where
  append {s s' u u'} hs hu := by
    rw [hs, hu]
    exact (Text.replaced_append _ _ s u).symm
  isEmpty {s s'} hs := by rw [hs, Text.requoted_eq, Text.isEmpty_replaced]
  own hs := (Text.replaced_of_notMem (Text.notMem_of_own hs)).symm
  given hs := (Text.replaced_of_notMem (Text.notMem_of_over hs rfl)).symm
  tablePart := requoted_wrapTablePart
  columnPart := requoted_wrapColumnPart
  separator := (Text.replaced_of_notMem (Text.notMem_of_over hseparator rfl)).symm

end Dialect

namespace Target

/-- **Two dialects, one statement.** Every query fails under both with the same error, or has
statements with the same parameters: the same names in the same order, with the same values. If
neither the separator nor a text of the query, at any depth, has a backtick or a double quote,
the text for PostgreSQL is the text for MySQL with double quotes in place of backticks. -/
theorem dialects_agree (separator : String) (q : Query) (seed : Params) :
    let my : Target := ⟨Dialect.mysql, separator⟩
    let pg : Target := ⟨Dialect.postgres, separator⟩
    (∃ e, my.build q seed = .error e ∧ pg.build q seed = .error e) ∨
      ∃ st st', my.build q seed = .ok st ∧ pg.build q seed = .ok st' ∧ st.params = st'.params ∧
        ((∀ s ∈ separator :: q.texts, Text.Over (Text.isUnquoted · = true) s) →
          st'.sql = Text.requoted st.sql) := by
  intro my pg
  have hrelated := (Dialect.parallel_isEmpty separator).similar.related.2 q fun _ _ _ _ => trivial
  rcases build_of_related hrelated seed with ⟨e, hmy, hpg⟩ | ⟨st, st', -, hparams, hmy, hpg⟩
  · exact Or.inl ⟨e, hmy, hpg⟩
  · refine Or.inr ⟨st, st', hmy, hpg, hparams, fun hclean => ?_⟩
    have hrequoted := (Dialect.parallel_requoted (hclean separator List.mem_cons_self)).similar.related.2 q
      fun s hs => hclean s (List.mem_cons_of_mem _ hs)
    rcases build_of_related hrequoted seed with ⟨e, hmy', -⟩ | ⟨st₁, st₂, hsql, -, hmy', hpg'⟩
    · -- the first dialect has not failed
      rw [hmy] at hmy'
      cases hmy'
    · -- both statements are the ones whose texts are related
      rw [hmy] at hmy'
      rw [hpg] at hpg'
      cases hmy'
      cases hpg'
      exact hsql

/-- A query with parts of names, aliases, a subquery and a union. -/
theorem dialects_agree_nested :
    let my : Target := { dialect := Dialect.mysql }
    let pg : Target := { dialect := Dialect.postgres }
    let inner : Query := ⟨{ tables := [.bare "v.w"], filter := some (.eq "k" (.value (.int 7))) }⟩
    let q : Query := ⟨{
      select := [.bare "a.b AS c", .bare "count(*)", .bare "*"]
      tables := [.bare "s.t AS u"]
      filter := some (.isInQuery "x" inner)
      orderBy := [("a.b", .desc)]
      unions := [⟨.query inner, true⟩] }⟩
    ∃ st st', my.build q .empty = .ok st ∧ pg.build q .empty = .ok st' ∧ st.params = st'.params ∧
      (∀ s ∈ " " :: q.texts, Text.Over (Text.isUnquoted · = true) s) ∧
      st'.sql = Text.requoted st.sql := by
  intro my pg inner q
  have hclean : ∀ s ∈ " " :: q.texts, Text.Over (Text.isUnquoted · = true) s := by
    decide +kernel
  rcases dialects_agree " " q .empty with ⟨e, hmy, -⟩ | ⟨st, st', hmy, hpg, hparams, hsql⟩
  · have hok : (my.build q .empty).isOk = true := by decide +kernel
    rw [hmy] at hok
    cases hok
  · exact ⟨st, st', hmy, hpg, hparams, hclean, hsql hclean⟩

end Target

end SqlCompose

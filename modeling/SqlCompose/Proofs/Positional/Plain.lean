import SqlCompose.Compile.Plain
import SqlCompose.Dialect.Brackets
import SqlCompose.Dialect.MySql
import SqlCompose.Dialect.Postgres
import SqlCompose.Proofs.Positional.Scan
import SqlCompose.Proofs.Text.Pieces
/-!
# Text without values is neutral

A statement is put together from texts of the caller and from words and signs of the
compiler. If the texts of the caller are clean, everything in which no value stands is
neutral for the scan: names keep their characters when they are split, trimmed or taken
apart at an alias, and a dialect puts a clean part of a name between quotes that are
closed again (`Dialect.Quotes`).
-/

namespace SqlCompose

open Positional

namespace Text

/-- Neutral texts with a neutral separator between them are neutral. -/
theorem neutral_join {sep : String} (hsep : Neutral sep) {parts : List String}
    (h : ∀ s ∈ parts, Neutral s) : Neutral (join sep parts) := by
  induction parts with
  | nil => exact neutral_empty
  | cons s rest ih =>
    have hs : Neutral s := h s List.mem_cons_self
    have hrest : Neutral (join sep rest) := ih fun s' hs' => h s' (List.mem_cons_of_mem s hs')
    cases rest with
    | nil => exact hs
    | cons s' rest => exact (hs.append hsep).append hrest

end Text

namespace Dialect

/-! ### Quoted names -/

/-- **Quoting that a scan can follow.** A clean part of a name is neutral once it is
quoted. -/
structure Quotes (d : Dialect) : Prop where
  tablePart : ∀ part, Clean part → Neutral (d.quoteTablePart part)
  columnPart : ∀ part, Clean part → Neutral (d.quoteColumnPart part)

theorem neutral_wrapTablePart {quote : Char} (hquote : isQuote quote = true) {part : String}
    (hpart : Clean part) : Neutral (wrapTablePart quote part) := by
  unfold wrapTablePart
  split
  · exact hpart.neutral
  · exact neutral_wrapped hquote hpart

theorem neutral_wrapColumnPart {quote : Char} (hquote : isQuote quote = true) {part : String}
    (hpart : Clean part) : Neutral (wrapColumnPart quote part) := by
  unfold wrapColumnPart
  split
  · exact hpart.neutral
  · exact neutral_wrapTablePart hquote hpart

theorem neutral_bracketed {part : String} (hpart : Clean part) : Neutral (bracketed part) := by
  have hopen : Clean "[" := by decide
  have hclose : Clean "]" := by decide
  exact (hopen.neutral.append hpart.neutral).append hclose.neutral

theorem quotes_mysql : Quotes mysql :=
  ⟨fun _ => neutral_wrapTablePart (by decide), fun _ => neutral_wrapColumnPart (by decide)⟩

theorem quotes_postgres : Quotes postgres :=
  ⟨fun _ => neutral_wrapTablePart (by decide), fun _ => neutral_wrapColumnPart (by decide)⟩

theorem quotes_brackets : Quotes brackets :=
  ⟨fun _ => neutral_bracketed, fun _ => neutral_bracketed⟩

namespace Quotes

variable {d : Dialect} (hd : d.Quotes)

include hd

theorem neutral_quoteTable {name : String} (hname : Clean name) : Neutral (d.quoteTable name) := by
  unfold quoteTable
  split
  · exact hname.neutral
  · refine Text.neutral_join neutral_point fun s hs => ?_
    obtain ⟨part, hpart, rfl⟩ := List.mem_map.mp hs
    exact hd.tablePart part (Text.Over.of_mem_split hname hpart)

theorem neutral_quoteColumn {name : String} (hname : Clean name) :
    Neutral (d.quoteColumn name) := by
  unfold quoteColumn
  split
  · exact hname.neutral
  · split
    · next table column hsplit =>
      obtain ⟨htable, hcolumn⟩ := Text.Over.of_splitLast? hname hsplit
      exact ((hd.neutral_quoteTable htable).append neutral_point).append
        (hd.columnPart column hcolumn)
    · exact hd.columnPart name hname

theorem neutral_column {name : String} (hname : Clean name) : Neutral (d.column name) := by
  unfold column
  split
  · exact hname.neutral
  · exact hd.neutral_quoteColumn hname

theorem neutral_columns {names : List String} (hnames : ∀ s ∈ names, Clean s) :
    Neutral (d.columns names) := by
  refine Text.neutral_join neutral_comma fun s hs => ?_
  obtain ⟨name, hname, rfl⟩ := List.mem_map.mp hs
  exact hd.neutral_column (hnames name hname)

theorem neutral_table {name : String} (hname : Clean name) : Neutral (d.table name) := by
  unfold table
  split
  · exact hname.neutral
  · exact hd.neutral_quoteTable hname

theorem neutral_columnTuple {names : List String} (hnames : ∀ s ∈ names, Clean s) :
    Neutral (d.columnTuple names) := by
  unfold columnTuple
  split
  · exact hd.neutral_column (hnames _ List.mem_cons_self)
  · exact (neutral_opening.append (hd.neutral_columns hnames)).append neutral_closing

/-! ### Names with aliases -/

theorem neutral_aliasedColumn {name expr : String} (hname : Clean name) (hexpr : Clean expr) :
    Neutral (d.aliasedColumn name expr) := by
  have has : Clean " AS " := by decide
  exact ((hd.neutral_column hexpr).append has.neutral).append (hd.neutral_quoteColumn hname)

theorem neutral_bareColumn {text : String} (htext : Clean text) : Neutral (d.bareColumn text) := by
  have has : Clean " AS " := by decide
  unfold bareColumn
  split
  · exact htext.neutral
  · split
    · next expr name hsplit =>
      obtain ⟨hexpr, hname⟩ := Alias.over_of_split? htext hsplit
      exact ((hd.neutral_quoteColumn hexpr).append has.neutral).append
        (hd.neutral_quoteColumn hname)
    · exact hd.neutral_quoteColumn htext

theorem neutral_aliasedTable {name table : String} (hname : Clean name) (htable : Clean table) :
    Neutral (d.aliasedTable name table) := by
  exact ((hd.neutral_table htable).append neutral_blank).append (hd.neutral_quoteTable hname)

theorem neutral_bareTable {text : String} (htext : Clean text) : Neutral (d.bareTable text) := by
  unfold bareTable
  split
  · exact htext.neutral
  · split
    · next table name hsplit =>
      obtain ⟨htable, hname⟩ := Alias.over_of_split? htext hsplit
      exact ((hd.neutral_quoteTable htable).append neutral_blank).append
        (hd.neutral_quoteTable hname)
    · exact hd.neutral_quoteTable htext

/-! ### Clauses -/

theorem neutral_groupByClause {names : List String} (hnames : ∀ s ∈ names, Clean s) :
    Neutral (d.groupByClause names) := by
  have hwords : Clean "GROUP BY " := by decide
  unfold groupByClause
  split
  · exact neutral_empty
  · exact hwords.neutral.append (hd.neutral_columns hnames)

theorem neutral_ordered {e : String × SortOrder} (he : Clean e.1) : Neutral (d.ordered e) := by
  have hdesc : Clean " DESC" := by decide
  unfold ordered
  split
  · exact hd.neutral_quoteColumn he
  · exact (hd.neutral_quoteColumn he).append hdesc.neutral

theorem neutral_orderByClause {ordering : List (String × SortOrder)}
    (hordering : ∀ e ∈ ordering, Clean e.1) : Neutral (d.orderByClause ordering) := by
  have hwords : Clean "ORDER BY " := by decide
  unfold orderByClause
  split
  · exact neutral_empty
  · refine hwords.neutral.append (Text.neutral_join neutral_comma fun s hs => ?_)
    obtain ⟨e, he, rfl⟩ := List.mem_map.mp hs
    exact hd.neutral_ordered (hordering e he)

end Quotes

theorem neutral_selectHead (distinct : Bool) {option : Option String}
    (hoption : ∀ s ∈ option, Clean s) : Neutral (selectHead distinct option) := by
  have hselect : Clean "SELECT" := by decide
  have hdistinct : Clean "SELECT DISTINCT" := by decide
  unfold selectHead
  refine Neutral.append ?_ ?_
  · split
    · exact hdistinct.neutral
    · exact hselect.neutral
  · split
    · exact neutral_blank.append (hoption _ rfl).neutral
    · exact neutral_empty

/-- The text of a natural number is clean. -/
theorem clean_toString (n : Nat) : Clean (toString n) := by
  intro c hc
  -- no digit is a quote character or a colon
  have hne : ∀ c', c'.isDigit = false → c ≠ c' := by
    rintro c' hc' rfl
    rw [isDigit_of_mem_toString hc] at hc'
    cases hc'
  simp [isPlain, isQuote, hne '\x27' rfl, hne '\x22' rfl, hne '\x60' rfl, hne ':' rfl]

/-- The paging is clean, since no negative number is written. -/
theorem neutral_limitClause (limit offset : Option Int) : Neutral (limitClause limit offset) := by
  have hlimit : Clean "LIMIT " := by decide
  have hoffset : Clean "OFFSET " := by decide
  have hnumber : ∀ n : Int, 0 ≤ n → Clean (toString n) := by
    intro n hn
    -- without a sign there are only digits
    obtain ⟨m, rfl⟩ := Int.eq_ofNat_of_zero_le hn
    exact clean_toString m
  unfold limitClause
  refine Text.neutral_join neutral_blank fun s hs => ?_
  rcases List.mem_append.mp hs with hs | hs
  · cases limit with
    | none => cases hs
    | some n =>
      dsimp only at hs
      split at hs
      case isTrue hn =>
        rw [List.mem_singleton.mp hs]
        exact hlimit.neutral.append (hnumber n hn).neutral
      case isFalse => cases hs
  · cases offset with
    | none => cases hs
    | some n =>
      dsimp only at hs
      split at hs
      case isTrue hn =>
        rw [List.mem_singleton.mp hs]
        exact hoffset.neutral.append (hnumber n (Int.le_of_lt hn)).neutral
      case isFalse => cases hs

theorem neutral_unionHead (all : Bool) : Neutral (unionHead all) := by
  have hall : Clean (unionHead true) := by decide
  have hdistinct : Clean (unionHead false) := by decide
  cases all with
  | true => exact hall.neutral
  | false => exact hdistinct.neutral

end Dialect

end SqlCompose

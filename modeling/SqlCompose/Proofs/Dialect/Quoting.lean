import SqlCompose.Dialect.MySql
import SqlCompose.Dialect.Postgres
import SqlCompose.Params.Positional
import SqlCompose.Proofs.Text.Split
/-!
# Quoting a quoted name

MySQL and PostgreSQL put the parts of a name between two of one character
(`Dialect.QuotesWith`), and leave alone a part that has this character already. A name is cut
into parts at its points, so it matters what quoting does to the points and to the marks of an
expression: it adds none of them and takes none away (`Dialect.QuotesWith.infix_quoteTable_iff`,
`Dialect.QuotesWith.infix_quoteColumn_iff`). A quoted name is therefore cut where the name was
cut, and its parts are left alone.

`Dialect.quoting_idempotent` says this of both dialects and all names, and also that quoting
adds nothing to a name but quote characters.
-/

namespace SqlCompose.Dialect

/-! ### Names that stay as they are -/

theorem isExpression_iff {name : String} : isExpression name = true ↔ '(' ∈ name.toList :=
  Text.has_iff

theorem keepsTable_iff {name : String} :
    keepsTable name = true ↔ ['('] <:+: name.toList ∨ ['\x7b', '\x7b'] <:+: name.toList := by
  rw [keepsTable, Bool.or_eq_true, isExpression_iff, Text.contains_iff, List.singleton_infix_iff]
  rfl

theorem keepsColumn_iff {name : String} :
    keepsColumn name = true ↔ (['('] <:+: name.toList ∨ ['[', '['] <:+: name.toList) ∨
      ['\x7b', '\x7b'] <:+: name.toList := by
  rw [keepsColumn, Bool.or_eq_true, Bool.or_eq_true, isExpression_iff, Text.contains_iff,
    Text.contains_iff, List.singleton_infix_iff]
  rfl

theorem keepsTable_of_isExpression {name : String} (h : isExpression name = true) :
    keepsTable name = true := by
  rw [keepsTable, h, Bool.true_or]

theorem keepsColumn_of_isExpression {name : String} (h : isExpression name = true) :
    keepsColumn name = true := by
  rw [keepsColumn, h, Bool.true_or, Bool.true_or]

theorem quoteTable_of_keeps {d : Dialect} {name : String} (h : keepsTable name = true) :
    d.quoteTable name = name := by
  rw [quoteTable, if_pos h]

theorem quoteColumn_of_keeps {d : Dialect} {name : String} (h : keepsColumn name = true) :
    d.quoteColumn name = name := by
  rw [quoteColumn, if_pos h]

/-- The beginning of a name is not marked if the name is not. -/
theorem keepsTable_of_append {front back : String} (h : keepsColumn (front ++ back) = false) :
    keepsTable front = false := by
  have hinfix : front.toList <:+: (front ++ back).toList := by
    rw [String.toList_append]
    exact (List.prefix_append _ _).isInfix
  rw [← Bool.not_eq_true] at h ⊢
  rw [keepsTable_iff]
  rw [keepsColumn_iff] at h
  exact fun hmark => h (hmark.elim (fun hm => Or.inl (Or.inl (hm.trans hinfix)))
    fun hm => Or.inr (hm.trans hinfix))

/-! ### Parts -/

section Parts

variable {q : Char} {part : String}

theorem wrapTablePart_of_mem (h : q ∈ part.toList) : wrapTablePart q part = part := by
  rw [wrapTablePart, if_pos (Text.has_iff.mpr h)]

theorem wrapTablePart_of_notMem (h : q ∉ part.toList) :
    wrapTablePart q part = String.ofList [q] ++ part ++ String.ofList [q] := by
  rw [wrapTablePart, if_neg (mt Text.has_iff.mp h)]

theorem toList_wrapTablePart_of_notMem (h : q ∉ part.toList) :
    (wrapTablePart q part).toList = q :: (part.toList ++ [q]) := by
  rw [wrapTablePart_of_notMem h]
  simp

theorem mem_wrapTablePart (q : Char) (part : String) : q ∈ (wrapTablePart q part).toList := by
  by_cases h : q ∈ part.toList
  · rwa [wrapTablePart_of_mem h]
  · rw [toList_wrapTablePart_of_notMem h]
    exact List.mem_cons_self

/-- A quoted part has the quote character, and is left alone for that. -/
theorem wrapTablePart_wrapTablePart (q : Char) (part : String) :
    wrapTablePart q (wrapTablePart q part) = wrapTablePart q part :=
  wrapTablePart_of_mem (mem_wrapTablePart q part)

/-- What has no quote character in it is found in a quoted part if it is found in the part. -/
theorem infix_wrapTablePart_iff {l : List Char} (hl : q ∉ l) :
    l <:+: (wrapTablePart q part).toList ↔ l <:+: part.toList := by
  by_cases h : q ∈ part.toList
  · rw [wrapTablePart_of_mem h]
  · -- in front of the first quote character and behind the last one there is nothing
    have hempty : l <:+: [] → l <:+: part.toList := by
      rw [List.infix_nil]
      rintro rfl
      exact List.nil_infix
    rw [toList_wrapTablePart_of_notMem h, ← List.nil_append (q :: _), Text.infix_between_iff hl,
      Text.infix_between_iff hl]
    exact ⟨fun h => h.elim hempty (·.elim id hempty), fun h => Or.inr (Or.inl h)⟩

/-- Another character than the quote character is in a quoted part only if it is in the part. -/
theorem notMem_wrapTablePart_of_ne {c : Char} (hc : c ≠ q) (h : c ∉ part.toList) :
    c ∉ (wrapTablePart q part).toList := by
  have hq : q ∉ [c] := fun hmem => hc (List.mem_singleton.mp hmem).symm
  rwa [← List.singleton_infix_iff, infix_wrapTablePart_iff hq, List.singleton_infix_iff]

/-- Quoting adds nothing to a part but quote characters. -/
theorem filter_wrapTablePart (q : Char) (part : String) :
    (wrapTablePart q part).toList.filter (· != q) = part.toList.filter (· != q) := by
  by_cases h : q ∈ part.toList
  · rw [wrapTablePart_of_mem h]
  · rw [toList_wrapTablePart_of_notMem h]
    simp

theorem wrapped_ne_nil (q : Char) (name : String) :
    (Text.split '.' name).map (wrapTablePart q) ≠ [] := by
  rw [ne_eq, List.map_eq_nil_iff]
  exact Text.split_ne_nil '.' name

/-- The last part of the name of a column is quoted like any other, unless it stands for all
columns. -/
theorem wrapColumnPart_cases {p : String → Prop} (hkept : p part)
    (hwrapped : p (wrapTablePart q part)) : p (wrapColumnPart q part) := by
  rw [wrapColumnPart]
  split
  · exact hkept
  · exact hwrapped

theorem wrapColumnPart_wrapColumnPart (q : Char) (part : String) :
    wrapColumnPart q (wrapColumnPart q part) = wrapColumnPart q part := by
  by_cases hall : part = "*"
  · rw [wrapColumnPart, wrapColumnPart, if_pos hall, if_pos hall]
  · have hwrap : wrapColumnPart q part = wrapTablePart q part := if_neg hall
    rw [hwrap]
    exact wrapColumnPart_cases (p := (· = _)) rfl (wrapTablePart_wrapTablePart q part)

end Parts

/-! ### Names -/

/-- **Quoting with one character.** The parts of a name stand between two of it. -/
structure QuotesWith (d : Dialect) (q : Char) : Prop where
  tablePart : d.quoteTablePart = wrapTablePart q
  columnPart : d.quoteColumnPart = wrapColumnPart q
  isQuote : Positional.isQuote q = true

/-- **The ways to quote the name of a column**: it stays as it is, it is cut at its last point
into a table and a part, or it is one part. -/
inductive ColumnCut (d : Dialect) (q : Char) : String → Prop
  | kept {name : String} (hkeep : keepsColumn name = true) (hquote : d.quoteColumn name = name) :
      ColumnCut d q name
  | between {front back : String}
      (hkeep : keepsColumn (front ++ String.ofList ['.'] ++ back) = false)
      (hback : '.' ∉ back.toList)
      (hquote : d.quoteColumn (front ++ String.ofList ['.'] ++ back) =
        d.quoteTable front ++ String.ofList ['.'] ++ wrapColumnPart q back) :
      ColumnCut d q (front ++ String.ofList ['.'] ++ back)
  | whole {name : String} (hkeep : keepsColumn name = false) (hname : '.' ∉ name.toList)
      (hquote : d.quoteColumn name = wrapColumnPart q name) : ColumnCut d q name

theorem quotesWith_of_mem {d : Dialect} {q : Char}
    (h : (d, q) ∈ [(mysql, '\x60'), (postgres, '\x22')]) : d.QuotesWith q := by
  simp only [List.mem_cons, Prod.mk.injEq, List.not_mem_nil, or_false] at h
  rcases h with ⟨rfl, rfl⟩ | ⟨rfl, rfl⟩
  · exact ⟨rfl, rfl, rfl⟩
  · exact ⟨rfl, rfl, rfl⟩

namespace QuotesWith

variable {d : Dialect} {q : Char} (hd : d.QuotesWith q)

include hd

theorem notMem_of_isQuote {l : List Char} (hl : l.any Positional.isQuote = false) : q ∉ l :=
  fun h => List.any_eq_false.mp hl q h hd.isQuote

/-- The name of a table is quoted part by part. -/
theorem quoteTable_eq {name : String} (h : keepsTable name = false) :
    d.quoteTable name =
      Text.join (String.ofList ['.']) ((Text.split '.' name).map (wrapTablePart q)) := by
  rw [quoteTable, h, hd.tablePart]
  rfl

theorem quoteColumn_between {front back : String}
    (h : keepsColumn (front ++ String.ofList ['.'] ++ back) = false) (hback : '.' ∉ back.toList) :
    d.quoteColumn (front ++ String.ofList ['.'] ++ back) =
      d.quoteTable front ++ String.ofList ['.'] ++ wrapColumnPart q back := by
  rw [quoteColumn, h, Text.splitLast?_between hback, hd.columnPart]
  rfl

theorem quoteColumn_of_notMem {name : String} (h : keepsColumn name = false)
    (hname : '.' ∉ name.toList) : d.quoteColumn name = wrapColumnPart q name := by
  rw [quoteColumn, h, Text.splitLast?_eq_none_iff.mpr hname, hd.columnPart]
  rfl

/-- The name of a column is quoted in one of three ways. -/
theorem columnCut (name : String) : ColumnCut d q name := by
  cases hkeep : keepsColumn name with
  | true => exact .kept hkeep (quoteColumn_of_keeps hkeep)
  | false =>
    by_cases hname : '.' ∈ name.toList
    · obtain ⟨front, back, rfl, hback⟩ := Text.exists_between_of_mem hname
      exact .between hkeep hback (hd.quoteColumn_between hkeep hback)
    · exact .whole hkeep hname (hd.quoteColumn_of_notMem hkeep hname)

/-- **Quoting leaves everything where it is**: what has neither a quote character nor a point in
it is found in the quoted name of a table if it is found in the name. -/
theorem infix_quoteTable_iff {l : List Char} (hq : q ∉ l) (hpoint : '.' ∉ l) (name : String) :
    l <:+: (d.quoteTable name).toList ↔ l <:+: name.toList := by
  cases hkeep : keepsTable name with
  | true => rw [quoteTable_of_keeps hkeep]
  | false =>
    have hparts := Text.split_ne_nil '.' name
    have hwrapped := wrapped_ne_nil q name
    calc l <:+: (d.quoteTable name).toList
        ↔ ∃ part ∈ Text.split '.' name, l <:+: (wrapTablePart q part).toList := by
          rw [hd.quoteTable_eq hkeep, Text.infix_join_iff hwrapped hpoint]
          simp only [List.mem_map, exists_exists_and_eq_and]
      _ ↔ ∃ part ∈ Text.split '.' name, l <:+: part.toList := by
          simp only [infix_wrapTablePart_iff hq]
      _ ↔ l <:+: name.toList := by
          rw [← Text.infix_join_iff hparts hpoint, Text.join_split]

theorem infix_quoteColumn_iff {l : List Char} (hq : q ∉ l) (hpoint : '.' ∉ l) (name : String) :
    l <:+: (d.quoteColumn name).toList ↔ l <:+: name.toList := by
  have hpart : ∀ part, l <:+: (wrapColumnPart q part).toList ↔ l <:+: part.toList := fun part =>
    wrapColumnPart_cases (p := fun s => l <:+: s.toList ↔ l <:+: part.toList) Iff.rfl
      (infix_wrapTablePart_iff hq)
  cases hd.columnCut name with
  | kept _ hquote => rw [hquote]
  | between _ _ hquote =>
    -- across the point nothing is found, and on either side of it as in the name
    rw [hquote]
    simp only [String.toList_append, String.toList_ofList, List.append_assoc,
      List.singleton_append]
    rw [Text.infix_between_iff hpoint, Text.infix_between_iff hpoint,
      hd.infix_quoteTable_iff hq hpoint, hpart]
  | whole _ _ hquote => rw [hquote, hpart]

/-- A quoted name is marked as an expression or as quoted if the name is. -/
theorem keepsTable_quoteTable (name : String) :
    keepsTable (d.quoteTable name) = keepsTable name := by
  have hq : ∀ l : List Char, l.any Positional.isQuote = false → q ∉ l := fun l =>
    hd.notMem_of_isQuote
  rw [Bool.eq_iff_iff, keepsTable_iff, keepsTable_iff,
    hd.infix_quoteTable_iff (hq _ rfl) (by decide),
    hd.infix_quoteTable_iff (hq _ rfl) (by decide)]

theorem keepsColumn_quoteColumn (name : String) :
    keepsColumn (d.quoteColumn name) = keepsColumn name := by
  have hq : ∀ l : List Char, l.any Positional.isQuote = false → q ∉ l := fun l =>
    hd.notMem_of_isQuote
  rw [Bool.eq_iff_iff, keepsColumn_iff, keepsColumn_iff,
    hd.infix_quoteColumn_iff (hq _ rfl) (by decide),
    hd.infix_quoteColumn_iff (hq _ rfl) (by decide),
    hd.infix_quoteColumn_iff (hq _ rfl) (by decide)]

/-! ### Quoting twice -/

theorem notMem_wrapTablePart {part : String} (h : '.' ∉ part.toList) :
    '.' ∉ (wrapTablePart q part).toList := by
  have hq : q ∉ ['.'] := hd.notMem_of_isQuote rfl
  exact notMem_wrapTablePart_of_ne (fun hc => hq (List.mem_singleton.mpr hc.symm)) h

theorem notMem_wrapColumnPart {part : String} (h : '.' ∉ part.toList) :
    '.' ∉ (wrapColumnPart q part).toList :=
  wrapColumnPart_cases (p := fun s => '.' ∉ s.toList) h (hd.notMem_wrapTablePart h)

theorem quoteTable_quoteTable (name : String) :
    d.quoteTable (d.quoteTable name) = d.quoteTable name := by
  cases hkeep : keepsTable name with
  | true => rw [quoteTable_of_keeps hkeep, quoteTable_of_keeps hkeep]
  | false =>
    have hquoted : keepsTable (d.quoteTable name) = false := by
      rw [hd.keepsTable_quoteTable, hkeep]
    -- the quoted name has points where the name has them
    have hpoints : ∀ part ∈ (Text.split '.' name).map (wrapTablePart q), '.' ∉ part.toList := by
      intro part hpart
      obtain ⟨part, hmem, rfl⟩ := List.mem_map.mp hpart
      exact hd.notMem_wrapTablePart (Text.notMem_of_mem_split hmem)
    have hparts : Text.split '.' (d.quoteTable name) =
        (Text.split '.' name).map (wrapTablePart q) := by
      rw [hd.quoteTable_eq hkeep, Text.split_join (wrapped_ne_nil q name) hpoints]
    -- and what stands between them is quoted already
    rw [hd.quoteTable_eq hquoted, hparts, List.map_map, hd.quoteTable_eq hkeep]
    exact congrArg _ (List.map_congr_left fun part _ => wrapTablePart_wrapTablePart q part)

theorem quoteColumn_quoteColumn (name : String) :
    d.quoteColumn (d.quoteColumn name) = d.quoteColumn name := by
  have hquoted := hd.keepsColumn_quoteColumn name
  cases hd.columnCut name with
  | kept _ hquote => rw [hquote, hquote]
  | between hkeep hback hquote =>
    -- the quoted name is cut where the name was cut
    rw [hkeep, hquote] at hquoted
    rw [hquote, hd.quoteColumn_between hquoted (hd.notMem_wrapColumnPart hback),
      hd.quoteTable_quoteTable, wrapColumnPart_wrapColumnPart]
  | whole hkeep hname hquote =>
    rw [hkeep, hquote] at hquoted
    rw [hquote, hd.quoteColumn_of_notMem hquoted (hd.notMem_wrapColumnPart hname),
      wrapColumnPart_wrapColumnPart]

/-! ### What quoting adds -/

/-- The name of a table gets quote characters and nothing else. -/
theorem filter_quoteTable (name : String) :
    (d.quoteTable name).toList.filter (· != q) = name.toList.filter (· != q) := by
  cases hkeep : keepsTable name with
  | true => rw [quoteTable_of_keeps hkeep]
  | false =>
    have hparts : ((Text.split '.' name).map (wrapTablePart q)).map
        (fun part => part.toList.filter (· != q)) =
          (Text.split '.' name).map fun part => part.toList.filter (· != q) := by
      rw [List.map_map]
      exact List.map_congr_left fun part _ => filter_wrapTablePart q part
    rw [hd.quoteTable_eq hkeep, Text.filter_join, hparts, ← Text.filter_join, Text.join_split]

theorem filter_quoteColumn (name : String) :
    (d.quoteColumn name).toList.filter (· != q) = name.toList.filter (· != q) := by
  have hpart : ∀ part : String, (wrapColumnPart q part).toList.filter (· != q) =
      part.toList.filter (· != q) := fun part =>
    wrapColumnPart_cases (p := fun s => s.toList.filter (· != q) = part.toList.filter (· != q))
      rfl (filter_wrapTablePart q part)
  cases hd.columnCut name with
  | kept _ hquote => rw [hquote]
  | between _ _ hquote =>
    rw [hquote]
    simp only [String.toList_append, List.filter_append]
    rw [hd.filter_quoteTable, hpart]
  | whole _ _ hquote => rw [hquote, hpart]

end QuotesWith

/-- **Quoting is idempotent and loses nothing.** For both dialects and every name, a quoted name
is quoted to itself, as that of a column and as that of a table, and without quote characters a
quoted name is the name without quote characters. -/
theorem quoting_idempotent {d : Dialect} {q : Char}
    (hd : (d, q) ∈ [(mysql, '\x60'), (postgres, '\x22')]) (name : String) :
    d.quoteColumn (d.quoteColumn name) = d.quoteColumn name ∧
      d.quoteTable (d.quoteTable name) = d.quoteTable name ∧
      (d.quoteColumn name).toList.filter (· != q) = name.toList.filter (· != q) ∧
      (d.quoteTable name).toList.filter (· != q) = name.toList.filter (· != q) := by
  have hquotes := quotesWith_of_mem hd
  exact ⟨hquotes.quoteColumn_quoteColumn name, hquotes.quoteTable_quoteTable name,
    hquotes.filter_quoteColumn name, hquotes.filter_quoteTable name⟩

/-- A name whose quotes go over a point, with an empty part, and with a star in the place of a
table and of a column. -/
theorem quoting_idempotent_partial :
    let name := "\x22s.x\x22.*..b.*"
    (postgres, '\x22') ∈ [(mysql, '\x60'), (postgres, '\x22')] ∧
      postgres.quoteColumn name = "\x22s.x\x22.\x22*\x22.\x22\x22.\x22b\x22.*" ∧
      postgres.quoteTable name = "\x22s.x\x22.\x22*\x22.\x22\x22.\x22b\x22.\x22*\x22" ∧
      postgres.quoteColumn (postgres.quoteColumn name) = postgres.quoteColumn name ∧
      postgres.quoteTable (postgres.quoteTable name) = postgres.quoteTable name := by
  intro name
  have hmem : (postgres, '\x22') ∈ [(mysql, '\x60'), (postgres, '\x22')] :=
    List.mem_cons_of_mem _ List.mem_cons_self
  obtain ⟨hcolumn, htable, -, -⟩ := quoting_idempotent hmem name
  exact ⟨hmem, by decide +kernel, by decide +kernel, hcolumn, htable⟩

end SqlCompose.Dialect

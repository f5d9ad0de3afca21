import Mathlib.Data.List.Forall2
import SqlCompose.Compile.Plain
import SqlCompose.Proofs.Dialect.Quoting
import SqlCompose.Proofs.Positional.Scan
import SqlCompose.Proofs.Text.Pieces
/-!
# Similar and parallel targets

Two targets are similar (`Target.Similar`) with respect to a relation on texts if the parts of
names that they quote are related, and so are their separators. The relation has to hold between
a text and itself, if the text is a word of the library or one of the caller, it has to go through
concatenation and parentheses, and no related text may be empty where the other is not. Then
everything in which no value stands is related.

Parentheses stand only around something. A text in which they are cut apart is no text of the
caller any more, but names are taken apart only where they have none (`Target.Similar.pieces`).

If the relation does not see parentheses at all, the targets are parallel (`Target.Parallel`), and
all that matters of a text of the caller is which characters it has. Targets that write the same
but for one character are of this kind (`Text.replaced`).
-/

namespace SqlCompose

namespace Text

/-- The characters of the words and signs that the library itself writes: printable ones, none
of which is a quote character of a dialect. -/
def isOwn (c : Char) : Bool := ' ' ≤ c && c ≤ '~' && c != '\x60' && c != '\x22'

/-- A text of the library. -/
def Own (s : String) : Prop := Over (isOwn · = true) s

instance (s : String) : Decidable (Own s) :=
  inferInstanceAs (Decidable (Over (isOwn · = true) s))

/-- The characters of the library that are no parentheses. -/
def isOwnWord (c : Char) : Bool := isOwn c && c != '(' && c != ')'

/-- A text of the library without parentheses. -/
def OwnWord (s : String) : Prop := Over (isOwnWord · = true) s

instance (s : String) : Decidable (OwnWord s) :=
  inferInstanceAs (Decidable (Over (isOwnWord · = true) s))

theorem OwnWord.own {s : String} (hs : OwnWord s) : Own s := by
  intro c hc
  have hword : isOwnWord c = true := hs c hc
  rw [isOwnWord, Bool.and_eq_true, Bool.and_eq_true] at hword
  exact hword.1.1

/-- The text of a natural number is a word of the library. -/
theorem ownWord_toString (n : Nat) : OwnWord (toString n) := by
  intro c hc
  have hdigit := Positional.isDigit_of_mem_toString hc
  have hrange : '0' ≤ c ∧ c ≤ '9' := by
    simpa [Char.isDigit, Char.le_def] using hdigit
  -- the digits are among the printable characters, and none of them is a quote or a parenthesis
  have hlow : ' ' ≤ c := Char.le_trans (by decide) hrange.1
  have hhigh : c ≤ '~' := Char.le_trans hrange.2 (by decide)
  have hne : ∀ d : Char, d.isDigit = false → c ≠ d := by
    rintro d hd rfl
    rw [hdigit] at hd
    cases hd
  simp [isOwnWord, isOwn, hlow, hhigh, hne '\x60' rfl, hne '\x22' rfl, hne '(' rfl, hne ')' rfl]

theorem ownWord_placeholderName (n : Nat) : OwnWord (placeholderName n) := by
  have hlead : OwnWord ":qp" := by decide
  exact hlead.append (ownWord_toString n)

/-! ### Texts with another character -/

/-- A text with one character in place of another. -/
def replaced (c c' : Char) (s : String) : String :=
  String.ofList (s.toList.map fun x => if x = c then c' else x)

variable {c c' : Char} {s : String}

theorem replaced_append (c c' : Char) (s s' : String) :
    replaced c c' (s ++ s') = replaced c c' s ++ replaced c c' s' := by
  simp [replaced]

/-- Nothing changes in a text in which the character is the other one, wherever it stands. -/
theorem replaced_eq_self (h : ∀ x ∈ s.toList, x = c → x = c') : replaced c c' s = s := by
  have hmap : s.toList.map (fun x => if x = c then c' else x) = s.toList := by
    refine (List.map_congr_left fun x hx => ?_).trans (List.map_id _)
    split
    · next hc => exact (h x hx hc).symm
    · rfl
  rw [replaced, hmap, String.ofList_toList]

/-- Nothing changes in a text without the character. -/
theorem replaced_of_notMem (h : c ∉ s.toList) : replaced c c' s = s :=
  replaced_eq_self fun _ hx hc => absurd (hc ▸ hx) h

theorem isEmpty_replaced (c c' : Char) (s : String) : (replaced c c' s).isEmpty = s.isEmpty := by
  rw [Bool.eq_iff_iff, String.isEmpty_iff, String.isEmpty_iff, ← String.toList_eq_nil_iff,
    replaced, String.toList_ofList, List.map_eq_nil_iff, String.toList_eq_nil_iff]

end Text

namespace Target

/-- **Similar targets**: what they write is related, part by part. Texts of the caller are
in `G`. -/
structure Similar (G : String → Prop) (R : String → String → Prop) (t t' : Target) : Prop where
  append : ∀ {s s' u u' : String}, R s s' → R u u' → R (s ++ u) (s' ++ u')
  enclosed : ∀ {s s' : String}, R s s' → R ("(" ++ s ++ ")") ("(" ++ s' ++ ")")
  isEmpty : ∀ {s s' : String}, R s s' → s.isEmpty = s'.isEmpty
  /-- A word of the library is related to itself. -/
  word : ∀ {s : String}, Text.OwnWord s → R s s
  /-- A text of the caller is related to itself. -/
  given : ∀ {s : String}, G s → R s s
  /-- What a name without parentheses is taken apart to is a text of the caller. -/
  part : ∀ {s u : String}, G s → '(' ∉ s.toList → u.toList ⊆ s.toList → G u
  trim : ∀ {s : String}, G s → G (Text.trim s)
  tablePart : ∀ {part : String}, G part → '(' ∉ part.toList →
    R (t.dialect.quoteTablePart part) (t'.dialect.quoteTablePart part)
  columnPart : ∀ {part : String}, G part → '(' ∉ part.toList →
    R (t.dialect.quoteColumnPart part) (t'.dialect.quoteColumnPart part)
  separator : R t.separator t'.separator

/-- **Parallel targets**: what they write is related, part by part. Texts of the caller are over
the characters in `p`. -/
structure Parallel (p : Char → Prop) (R : String → String → Prop) (t t' : Target) : Prop where
  append : ∀ {s s' u u' : String}, R s s' → R u u' → R (s ++ u) (s' ++ u')
  isEmpty : ∀ {s s' : String}, R s s' → s.isEmpty = s'.isEmpty
  /-- A text of the library is related to itself. -/
  own : ∀ {s : String}, Text.Own s → R s s
  /-- A text of the caller is related to itself. -/
  given : ∀ {s : String}, Text.Over p s → R s s
  tablePart : ∀ {part : String}, Text.Over p part →
    R (t.dialect.quoteTablePart part) (t'.dialect.quoteTablePart part)
  columnPart : ∀ {part : String}, Text.Over p part →
    R (t.dialect.quoteColumnPart part) (t'.dialect.quoteColumnPart part)
  separator : R t.separator t'.separator

/-- **Parallel targets are similar**, with parentheses as texts of the library. -/
theorem Parallel.similar {p : Char → Prop} {R : String → String → Prop} {t t' : Target}
    (h : Parallel p R t t') : Similar (Text.Over p) R t t' where
  append := h.append
  enclosed hs := h.append (h.append (h.own (by decide)) hs) (h.own (by decide))
  isEmpty := h.isEmpty
  word hs := h.own hs.own
  given := h.given
  part hs _ hsub := hs.of_subset hsub
  trim := Text.Over.trim
  tablePart hpart _ := h.tablePart hpart
  columnPart hpart _ := h.columnPart hpart
  separator := h.separator

namespace Similar

variable {G : String → Prop} {R : String → String → Prop} {t t' : Target} (h : Similar G R t t')

include h

/-- Two texts with words of the library between them. -/
theorem between {word : String} (hword : Text.OwnWord word) {s s' u u' : String} (hs : R s s')
    (hu : R u u') : R (s ++ word ++ u) (s' ++ word ++ u') :=
  h.append (h.append hs (h.word hword)) hu

/-- Related texts with related separators between them. -/
theorem join {sep sep' : String} (hsep : R sep sep') {ss ss' : List String}
    (hss : List.Forall₂ R ss ss') : R (Text.join sep ss) (Text.join sep' ss') := by
  induction hss with
  | nil =>
    have hempty : Text.OwnWord "" := by decide
    exact h.word hempty
  | @cons s s' rest rest' hs hrest ih =>
    -- behind the last text there is no separator
    cases hrest with
    | nil => exact hs
    | cons _ _ => exact h.append (h.append hs hsep) ih

/-- Texts made of the same items. -/
theorem join_map {ι : Type} {sep : String} (hsep : R sep sep) {v w : ι → String} {xs : List ι}
    (hxs : ∀ x ∈ xs, R (v x) (w x)) : R (Text.join sep (xs.map v)) (Text.join sep (xs.map w)) := by
  refine h.join hsep ?_
  rw [List.forall₂_map_left_iff, List.forall₂_map_right_iff]
  exact List.forall₂_same.mpr hxs

/-- The texts that are any, of related ones. -/
theorem filter {ss ss' : List String} (hss : List.Forall₂ R ss ss') :
    List.Forall₂ R (ss.filter (!·.isEmpty)) (ss'.filter (!·.isEmpty)) := by
  induction hss with
  | nil => exact .nil
  | @cons s s' rest rest' hs _ ih =>
    rw [List.filter_cons, List.filter_cons, h.isEmpty hs]
    split
    · exact .cons hs ih
    · exact ih

/-! ### Parentheses -/

/-- A text in front of a text in parentheses. -/
theorem before_enclosed {s s' u u' : String} (hs : R s s') (hu : R u u') :
    R (s ++ " (" ++ u ++ ")") (s' ++ " (" ++ u' ++ ")") := by
  have hassoc : ∀ s u : String, s ++ " (" ++ u ++ ")" = s ++ " " ++ ("(" ++ u ++ ")") := by
    intro s u
    rw [← String.toList_inj]
    simp
  rw [hassoc, hassoc]
  exact h.between (by decide) hs (h.enclosed hu)

/-- A text in parentheses in front of a text, with a word between the two. -/
theorem enclosed_before (word : String) (hword : Text.OwnWord word) {s s' u u' : String}
    (hs : R s s') (hu : R u u') :
    R ("(" ++ s ++ (")" ++ word) ++ u) ("(" ++ s' ++ (")" ++ word) ++ u') := by
  rw [← String.append_assoc, ← String.append_assoc]
  exact h.between hword (h.enclosed hs) hu

/-- Texts in parentheses of their own, with words between them; no text is in parentheses too. -/
theorem join_enclosed {word : String} (hword : R word word) {ss ss' : List String}
    (hss : List.Forall₂ R ss ss') :
    R ("(" ++ Text.join (") " ++ word ++ " (") ss ++ ")")
      ("(" ++ Text.join (") " ++ word ++ " (") ss' ++ ")") := by
  cases hss with
  | nil =>
    have hempty : R "" "" := h.word (by decide)
    exact h.enclosed hempty
  | cons hs hrest =>
    rw [Text.join_parenthesized, Text.join_parenthesized]
    refine h.join (h.append (h.append (h.word (by decide)) hword) (h.word (by decide))) ?_
    rw [List.forall₂_map_left_iff, List.forall₂_map_right_iff]
    exact .cons (h.enclosed hs) (hrest.imp fun _ _ hs => h.enclosed hs)

/-! ### Names -/

/-- **A name without parentheses** is taken apart to texts of the caller that have none. -/
theorem pieces {name part : String} (hname : G name) (hplain : '(' ∉ name.toList)
    (hpart : Text.Over (· ∈ name.toList) part) : G part ∧ '(' ∉ part.toList :=
  ⟨h.part hname hplain hpart, fun hmem => hplain (hpart _ hmem)⟩

theorem quoteTable {name : String} (hname : G name) :
    R (t.dialect.quoteTable name) (t'.dialect.quoteTable name) := by
  unfold Dialect.quoteTable
  split
  · exact h.given hname
  · next hkeeps =>
    have hplain : '(' ∉ name.toList := fun hmem =>
      hkeeps (Dialect.keepsTable_of_isExpression (Dialect.isExpression_iff.mpr hmem))
    refine h.join_map (h.word (by decide)) fun part hpart => ?_
    obtain ⟨hgiven, hplain'⟩ := h.pieces hname hplain
      (Text.Over.of_mem_split (Text.over_self name) hpart)
    exact h.tablePart hgiven hplain'

theorem quoteColumn {name : String} (hname : G name) :
    R (t.dialect.quoteColumn name) (t'.dialect.quoteColumn name) := by
  unfold Dialect.quoteColumn
  split
  · exact h.given hname
  · next hkeeps =>
    have hplain : '(' ∉ name.toList := fun hmem =>
      hkeeps (Dialect.keepsColumn_of_isExpression (Dialect.isExpression_iff.mpr hmem))
    split
    · next table column hsplit =>
      -- the name is cut at its last point, and both parts are over its characters
      obtain ⟨htable, hcolumn⟩ := (Text.over_self name).of_splitLast? hsplit
      obtain ⟨hgiven, hplain'⟩ := h.pieces hname hplain hcolumn
      exact h.between (by decide) (h.quoteTable (h.pieces hname hplain htable).1)
        (h.columnPart hgiven hplain')
    · exact h.columnPart hname hplain

theorem column {name : String} (hname : G name) :
    R (t.dialect.column name) (t'.dialect.column name) := by
  unfold Dialect.column
  split
  · exact h.given hname
  · exact h.quoteColumn hname

theorem columns {names : List String} (hnames : ∀ s ∈ names, G s) :
    R (t.dialect.columns names) (t'.dialect.columns names) :=
  h.join_map (h.word (by decide)) fun name hname => h.column (hnames name hname)

theorem table {name : String} (hname : G name) :
    R (t.dialect.table name) (t'.dialect.table name) := by
  unfold Dialect.table
  split
  · exact h.given hname
  · exact h.quoteTable hname

theorem columnTuple {names : List String} (hnames : ∀ s ∈ names, G s) :
    R (t.dialect.columnTuple names) (t'.dialect.columnTuple names) := by
  unfold Dialect.columnTuple
  split
  · exact h.column (hnames _ List.mem_cons_self)
  · exact h.enclosed (h.columns hnames)

/-! ### Names with aliases -/

theorem aliasedColumn {name expr : String} (hname : G name) (hexpr : G expr) :
    R (t.dialect.aliasedColumn name expr) (t'.dialect.aliasedColumn name expr) :=
  h.between (by decide) (h.column hexpr) (h.quoteColumn hname)

theorem bareColumn {text : String} (htext : G text) :
    R (t.dialect.bareColumn text) (t'.dialect.bareColumn text) := by
  unfold Dialect.bareColumn
  split
  · exact h.given htext
  · next hplain =>
    split
    · next expr name hsplit =>
      obtain ⟨hexpr, hname⟩ := Alias.over_of_split? (Text.over_self text) hsplit
      have hparen := mt Dialect.isExpression_iff.mpr hplain
      exact h.between (by decide) (h.quoteColumn (h.pieces htext hparen hexpr).1)
        (h.quoteColumn (h.pieces htext hparen hname).1)
    · exact h.quoteColumn htext

theorem aliasedTable {name table : String} (hname : G name)
    (htable : G table) :
    R (t.dialect.aliasedTable name table) (t'.dialect.aliasedTable name table) :=
  h.between (by decide) (h.table htable) (h.quoteTable hname)

theorem bareTable {text : String} (htext : G text) :
    R (t.dialect.bareTable text) (t'.dialect.bareTable text) := by
  unfold Dialect.bareTable
  split
  · exact h.given htext
  · next hplain =>
    split
    · next table name hsplit =>
      obtain ⟨htable, hname⟩ := Alias.over_of_split? (Text.over_self text) hsplit
      have hparen := mt Dialect.isExpression_iff.mpr hplain
      exact h.between (by decide) (h.quoteTable (h.pieces htext hparen htable).1)
        (h.quoteTable (h.pieces htext hparen hname).1)
    · exact h.quoteTable htext

/-! ### Clauses -/

theorem groupByClause {names : List String} (hnames : ∀ s ∈ names, G s) :
    R (t.dialect.groupByClause names) (t'.dialect.groupByClause names) := by
  unfold Dialect.groupByClause
  split
  · exact h.word (by decide)
  · exact h.append (h.word (by decide)) (h.columns hnames)

theorem ordered {e : String × SortOrder} (he : G e.1) :
    R (t.dialect.ordered e) (t'.dialect.ordered e) := by
  unfold Dialect.ordered
  split
  · exact h.quoteColumn he
  · exact h.append (h.quoteColumn he) (h.word (by decide))

theorem orderByClause {ordering : List (String × SortOrder)}
    (hordering : ∀ e ∈ ordering, G e.1) :
    R (t.dialect.orderByClause ordering) (t'.dialect.orderByClause ordering) := by
  unfold Dialect.orderByClause
  split
  · exact h.word (by decide)
  · refine h.append (h.word (by decide)) (h.join_map (h.word (by decide)) fun e he => ?_)
    exact h.ordered (hordering e he)

theorem selectHead (distinct : Bool) {option : Option String}
    (hoption : ∀ s ∈ option, G s) :
    R (Dialect.selectHead distinct option) (Dialect.selectHead distinct option) := by
  unfold Dialect.selectHead
  refine h.append (h.word ?_) ?_
  · cases distinct <;> decide
  · split
    · exact h.append (h.word (by decide)) (h.given (hoption _ rfl))
    · exact h.word (by decide)

theorem limitClause (limit offset : Option Int) :
    R (Dialect.limitClause limit offset) (Dialect.limitClause limit offset) := by
  -- only natural numbers are written
  have hnumber : ∀ n : Int, 0 ≤ n → R (toString n) (toString n) := by
    intro n hn
    obtain ⟨m, rfl⟩ := Int.eq_ofNat_of_zero_le hn
    exact h.word (Text.ownWord_toString m)
  refine h.join (h.word (by decide)) (List.forall₂_same.mpr fun s hs => ?_)
  -- what is written of the limit, and what is written of the offset
  rcases List.mem_append.mp hs with hs | hs
  · cases limit with
    | none => cases hs
    | some n =>
      dsimp only at hs
      split at hs
      case isTrue hn =>
        rw [List.mem_singleton.mp hs]
        exact h.append (h.word (by decide)) (hnumber n hn)
      case isFalse => cases hs
  · cases offset with
    | none => cases hs
    | some n =>
      dsimp only at hs
      split at hs
      case isTrue hn =>
        rw [List.mem_singleton.mp hs]
        exact h.append (h.word (by decide)) (hnumber n (Int.le_of_lt hn))
      case isFalse => cases hs

end Similar

end Target

end SqlCompose

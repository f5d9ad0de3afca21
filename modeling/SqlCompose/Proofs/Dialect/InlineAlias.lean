import SqlCompose.Dialect.MySql
import SqlCompose.Dialect.Postgres
import SqlCompose.Proofs.Dialect.Quoting
import SqlCompose.Proofs.Text.Trim
import SqlCompose.Session.Clause
/-!
# Aliases written behind a name

An alias may be written behind a name, with blanks or with blanks and the word `as` between the
two. Whatever the blanks are, such a text is taken apart at this gap (`Alias.split?_gap`), so that
an entry of a list of columns or tables is written like one with an alias of its own
(`Dialect.inline_alias`).

The search for an alias goes through the text from its beginning. A name without blanks is passed
over (`Alias.split?_append`), and at the gap the whole rest is an alias (`Alias.behind?_gap`): with
the word if blanks stand on both sides of it, and otherwise without it, also if the alias itself
starts with these two letters (`Alias.afterWord?_of_no_blank`).
-/

namespace SqlCompose

namespace Alias

/-! ### Names, gaps and aliases -/

/-- A name in one piece: it has no blanks, and is no expression. -/
def IsPlain (s : String) : Prop := ∀ c ∈ s.toList, Text.isBlank c = false ∧ c ≠ '('

instance (s : String) : Decidable (IsPlain s) :=
  decidable_of_iff (s.toList.all fun c => !Text.isBlank c && c != '(') (by simp [IsPlain])

/-- An alias of a column: letters and digits of ASCII and three marks, one character at least. -/
def IsColumnAlias (s : String) : Prop :=
  s ≠ "" ∧ ∀ c ∈ s.toList, c.isAlphanum = true ∨ c ∈ ['_', '.', '-']

instance (s : String) : Decidable (IsColumnAlias s) :=
  decidable_of_iff (s ≠ "" ∧ s.toList.all fun c => c.isAlphanum || ['_', '.', '-'].contains c)
    (by simp [IsColumnAlias])

/-- A run of blanks, one at least. -/
def IsBlanks (s : String) : Prop := s ≠ "" ∧ Text.AreBlank s.toList

instance (s : String) : Decidable (IsBlanks s) := inferInstanceAs (Decidable (_ ∧ _))

/-- The spellings of the word in front of an alias. -/
def words : List String := ["as", "As", "aS", "AS"]

/-- **What stands between a name and its alias**: blanks, with or without the word between
them. -/
inductive Gap : String → Prop
  | blanks {w : String} (hw : IsBlanks w) : Gap w
  | word {w word w' : String} (hw : IsBlanks w) (hword : word ∈ words) (hw' : IsBlanks w') :
      Gap (w ++ word ++ w')

/-! ### Taking a text apart -/

variable {allowed : Char → Bool} {w cs name rest : List Char}

/-- Behind blanks, an alias is all that follows. -/
theorem afterBlanks?_append (hw : Text.AreBlank w) (hne : w ≠ [])
    (hname : name ≠ []) (hplain : ∀ c ∈ name, Text.isBlank c = false)
    (hallowed : ∀ c ∈ name, allowed c = true) : afterBlanks? allowed (w ++ name) = some name := by
  obtain ⟨htake, hdrop⟩ := Text.takeWhile_run hw fun c hc => hplain c (List.mem_of_mem_head? hc)
  obtain ⟨c, rest, rfl⟩ := List.exists_cons_of_ne_nil hname
  rw [afterBlanks?, htake, hdrop]
  dsimp only
  rw [if_pos]
  rw [Bool.and_eq_true, Bool.not_eq_true', List.isEmpty_eq_false_iff, List.all_eq_true]
  exact ⟨hne, hallowed⟩

/-- Without blanks in front there is no alias. -/
theorem afterBlanks?_of_no_blank (hcs : ∀ c ∈ cs, Text.isBlank c = false) :
    afterBlanks? allowed cs = none := by
  obtain ⟨htake, hdrop⟩ := Text.takeWhile_run Text.areBlank_nil fun c hc =>
    hcs c (List.mem_of_mem_head? hc)
  rw [List.nil_append] at htake hdrop
  rw [afterBlanks?, htake, hdrop]
  cases cs with
  | nil => rfl
  | cons c cs => rfl

/-- The word between blanks is no part of the alias. -/
theorem afterWord?_append {x s : Char} (hw : Text.AreBlank w)
    (hne : w ≠ []) (hx : isLetterA x = true) (hs : isLetterS s = true)
    (hblank : Text.isBlank x = false) :
    afterWord? allowed (w ++ x :: s :: rest) = afterBlanks? allowed rest := by
  have hdrop : (w ++ x :: s :: rest).dropWhile Text.isBlank = x :: s :: rest := by
    refine (Text.takeWhile_run hw fun c hc => ?_).2
    cases hc
    exact hblank
  obtain ⟨b, w, rfl⟩ := List.exists_cons_of_ne_nil hne
  have hb : Text.isBlank b = true := hw b List.mem_cons_self
  rw [List.cons_append] at hdrop ⊢
  rw [afterWord?, if_pos hb, hdrop]
  dsimp only
  rw [hx, hs]
  rfl

/-- A name without blanks is not taken apart, also if it starts like the word. -/
theorem afterWord?_of_no_blank (hw : Text.AreBlank w)
    (hname : ∀ c ∈ name, Text.isBlank c = false) : afterWord? allowed (w ++ name) = none := by
  obtain ⟨-, hdrop⟩ := Text.takeWhile_run hw fun c hc => hname c (List.mem_of_mem_head? hc)
  unfold afterWord?
  split
  · split
    · split
      · next x s rest heq =>
        rw [hdrop] at heq
        split
        · -- behind the word there would have to be a blank
          refine afterBlanks?_of_no_blank fun c hc => hname c ?_
          rw [heq]
          exact List.mem_cons_of_mem _ (List.mem_cons_of_mem _ hc)
        · rfl
      · rfl
    · rfl
  · rfl

/-- Where there is no blank, no alias starts. -/
theorem behind?_cons {c : Char} (hc : Text.isBlank c = false) : behind? allowed (c :: cs) = none := by
  have hword : afterWord? allowed (c :: cs) = none := by
    rw [afterWord?, hc]
    rfl
  have hblanks : afterBlanks? allowed (c :: cs) = none := by
    simp [afterBlanks?, hc]
  rw [behind?, hword, hblanks]
  rfl

/-- **A name without blanks** is what stands in front of the alias. -/
theorem split?_append {front : List Char} (hfront : ∀ c ∈ front, Text.isBlank c = false)
    (hrest : behind? allowed rest = some name) :
    split? allowed (front ++ rest) = some (front, name) := by
  induction front with
  | nil =>
    cases rest with
    | nil => simp [behind?, afterWord?, afterBlanks?] at hrest
    | cons c rest =>
      rw [List.nil_append, split?_cons, hrest]
      rfl
  | cons c front ih =>
    have hc : Text.isBlank c = false := hfront c List.mem_cons_self
    have hline : c ≠ '\n' := by
      rintro rfl
      exact absurd hc (by decide)
    -- no alias begins at a character that is not blank, so the search goes on behind it
    rw [List.cons_append, split?_cons, behind?_cons hc, Option.elim_none, if_neg hline,
      ih fun c hc => hfront c (List.mem_cons_of_mem _ hc)]
    rfl

/-- **Behind a gap** the rest is an alias, if it has no blanks and only allowed characters. -/
theorem behind?_gap {gap text : String} (hgap : Gap gap) (hne : text ≠ "")
    (hplain : ∀ c ∈ text.toList, Text.isBlank c = false)
    (hallowed : ∀ c ∈ text.toList, allowed c = true) :
    behind? allowed (gap.toList ++ text.toList) = some text.toList := by
  have hname : text.toList ≠ [] := mt String.toList_eq_nil_iff.mp hne
  cases hgap with
  | blanks hw =>
    -- blanks alone: no word is found in what follows them
    have hwne : gap.toList ≠ [] := mt String.toList_eq_nil_iff.mp hw.1
    rw [behind?, afterWord?_of_no_blank hw.2 hplain,
      afterBlanks?_append hw.2 hwne hname hplain hallowed]
    rfl
  | @word w word w' hw hword hw' =>
    -- a word: two letters with blanks on either side
    have hwne : w.toList ≠ [] := mt String.toList_eq_nil_iff.mp hw.1
    have hwne' : w'.toList ≠ [] := mt String.toList_eq_nil_iff.mp hw'.1
    obtain ⟨x, s, hspelling, hx, hs, hblank⟩ : ∃ x s, word.toList = [x, s] ∧
        isLetterA x = true ∧ isLetterS s = true ∧ Text.isBlank x = false := by
      simp only [words, List.mem_cons, List.not_mem_nil, or_false] at hword
      rcases hword with rfl | rfl | rfl | rfl <;> exact ⟨_, _, rfl, rfl, rfl, rfl⟩
    have hsplit : (w ++ word ++ w').toList ++ text.toList =
        w.toList ++ x :: s :: (w'.toList ++ text.toList) := by
      simp [hspelling]
    rw [hsplit, behind?, afterWord?_append hw.2 hwne hx hs hblank,
      afterBlanks?_append hw'.2 hwne' hname hplain hallowed]
    rfl

/-- **A text with a gap** is taken apart at the gap. -/
theorem split?_gap {front gap name : String} (hfront : ∀ c ∈ front.toList, Text.isBlank c = false)
    (hgap : Gap gap) (hne : name ≠ "") (hplain : ∀ c ∈ name.toList, Text.isBlank c = false)
    (hallowed : ∀ c ∈ name.toList, allowed c = true) :
    (split? allowed (front ++ gap ++ name).toList).map
      (fun r => (String.ofList r.1, String.ofList r.2)) = some (front, name) := by
  have hsplit : split? allowed (front.toList ++ (gap.toList ++ name.toList)) =
      some (front.toList, name.toList) :=
    split?_append hfront (behind?_gap hgap hne hplain hallowed)
  rw [String.toList_append, String.toList_append, List.append_assoc, hsplit, Option.map_some,
    String.ofList_toList, String.ofList_toList]

/-- Letters and digits of ASCII are in the three ranges of their codes. -/
theorem toNat_of_isAlphanum {c : Char} (h : c.isAlphanum = true) :
    (48 ≤ c.toNat ∧ c.toNat ≤ 57) ∨ (65 ≤ c.toNat ∧ c.toNat ≤ 90) ∨
      (97 ≤ c.toNat ∧ c.toNat ≤ 122) := by
  rcases Bool.or_eq_true_iff.mp h with hletter | hdigit
  · rcases Bool.or_eq_true_iff.mp hletter with hupper | hlower
    · obtain ⟨hle, hge⟩ := of_decide_eq_true hupper
      exact Or.inr (Or.inl ⟨UInt32.le_iff_toNat_le.mp hle, UInt32.le_iff_toNat_le.mp hge⟩)
    · obtain ⟨hle, hge⟩ := Bool.and_eq_true_iff.mp hlower
      exact Or.inr (Or.inr ⟨UInt32.le_iff_toNat_le.mp (of_decide_eq_true hle),
        UInt32.le_iff_toNat_le.mp (of_decide_eq_true hge)⟩)
  · exact Or.inl (Char.isDigit_iff_toNat.mp hdigit)

theorem inColumn_of_ascii {c : Char} (h : c.isAlphanum = true ∨ c ∈ ['_', '.', '-']) :
    inColumn c = true ∧ Text.isBlank c = false ∧ c ≠ '(' := by
  rcases h with h | h
  · have hrange := toNat_of_isAlphanum h
    refine ⟨?_, ?_, ?_⟩
    · have hword : Text.isWord c = true := by
        rw [Text.isWord, if_pos (by omega), h, Bool.true_or]
      rw [inColumn, hword, Bool.true_or, Bool.true_or]
    · simp only [Text.isBlank]
      simp
      omega
    · rintro rfl
      cases h
  · simp only [List.mem_cons, List.not_mem_nil, or_false] at h
    rcases h with rfl | rfl | rfl <;> decide

theorem IsBlanks.notMem {w : String} (hw : IsBlanks w) : '(' ∉ w.toList := by
  intro h
  cases hw.2 _ h

/-- A gap makes no expression of what stands around it. -/
theorem Gap.notMem {gap : String} (h : Gap gap) : '(' ∉ gap.toList := by
  cases h with
  | blanks hw => exact hw.notMem
  | @word w word w' hw hword hw' =>
    have hletters : '(' ∉ word.toList := by
      simp only [words, List.mem_cons, List.not_mem_nil, or_false] at hword
      rcases hword with rfl | rfl | rfl | rfl <;> decide
    simp only [String.toList_append, List.mem_append, not_or]
    exact ⟨⟨hw.notMem, hletters⟩, hw'.notMem⟩

end Alias

namespace Dialect

variable (d : Dialect) {gap : String}

theorem isExpression_eq_false {s : String} (h : '(' ∉ s.toList) : isExpression s = false :=
  Bool.eq_false_iff.mpr (mt isExpression_iff.mp h)

/-- Two names that are no expressions, with a gap between them, are none. -/
theorem isExpression_gap {front name : String} (hfront : '(' ∉ front.toList)
    (hgap : Alias.Gap gap) (hname : '(' ∉ name.toList) :
    isExpression (front ++ gap ++ name) = false := by
  refine isExpression_eq_false ?_
  simp only [String.toList_append, List.mem_append, not_or]
  exact ⟨⟨hfront, hgap.notMem⟩, hname⟩

/-- A column behind which an alias is written is a column with that alias. -/
theorem bareColumn_gap {expr name : String} (hexpr : Alias.IsPlain expr) (hgap : Alias.Gap gap)
    (hname : Alias.IsColumnAlias name) :
    d.bareColumn (expr ++ gap ++ name) = d.aliasedColumn name expr := by
  have hplain : ∀ c ∈ name.toList, Alias.inColumn c = true ∧ Text.isBlank c = false ∧ c ≠ '(' :=
    fun c hc => Alias.inColumn_of_ascii (hname.2 c hc)
  have hno : '(' ∉ expr.toList := fun h => (hexpr _ h).2 rfl
  have hsplit : Alias.ofColumn? (expr ++ gap ++ name) = some (expr, name) :=
    Alias.split?_gap (fun c hc => (hexpr c hc).1) hgap hname.1 (fun c hc => (hplain c hc).2.1)
      fun c hc => (hplain c hc).1
  -- neither text is an expression, so both are quoted
  rw [bareColumn, isExpression_gap hno hgap fun h => (hplain _ h).2.2 rfl, hsplit, aliasedColumn,
    column, isExpression_eq_false hno]
  rfl

/-- A table behind which an alias is written is a table with that alias. -/
theorem bareTable_gap {front name : String} (hfront : Alias.IsPlain front) (hgap : Alias.Gap gap)
    (hname : Alias.IsPlain name) (hne : name ≠ "") :
    d.bareTable (front ++ gap ++ name) = d.aliasedTable name front := by
  have hno : '(' ∉ front.toList := fun h => (hfront _ h).2 rfl
  have hallowed : ∀ c ∈ name.toList, Alias.inTable c = true := by
    -- all but one character are allowed, and that one is a blank
    intro c hc
    have hblank := (hname c hc).1
    rw [Alias.inTable, bne_iff_ne]
    rintro rfl
    cases hblank
  have hsplit : Alias.ofTable? (front ++ gap ++ name) = some (front, name) :=
    Alias.split?_gap (fun c hc => (hfront c hc).1) hgap hne (fun c hc => (hname c hc).1) hallowed
  rw [bareTable, isExpression_gap hno hgap fun h => (hname _ h).2 rfl, hsplit, aliasedTable, table,
    isExpression_eq_false hno]
  rfl

/-- **An alias behind a name** is an alias like any other. With blanks between the two, and with
or without the word `as` between the blanks, an entry of a select list or of a list of tables is
written like the entry that has its alias apart, from every allocator. -/
theorem inline_alias (hgap : Alias.Gap gap) :
    (∀ expr name, Alias.IsPlain expr → Alias.IsColumnAlias name →
      d.writeSelectEntry (.bare (expr ++ gap ++ name)) =
        d.writeSelectEntry (.aliased name expr)) ∧
    ∀ table name, Alias.IsPlain table → Alias.IsPlain name → name ≠ "" →
      d.writeTableEntry (.bare (table ++ gap ++ name)) =
        d.writeTableEntry (.aliased name table) :=
  ⟨fun _ _ hexpr hname => congrArg pure (d.bareColumn_gap hexpr hgap hname),
    fun _ _ htable hname hne => congrArg pure (d.bareTable_gap htable hgap hname hne)⟩

example : mysql.bareColumn "db.assets\t AS\nas-of.x" =
    "\x60db\x60.\x60assets\x60 AS \x60as-of\x60.\x60x\x60" := by decide +kernel

/-- A name and aliases that start with the word or are the word, and a gap over two lines. -/
theorem inline_alias_as :
    let gap := "\t " ++ "AS" ++ "\n"
    Alias.Gap gap ∧ Alias.Gap " " ∧ Alias.IsPlain "db.assets" ∧ Alias.IsColumnAlias "as-of.x" ∧
      Alias.IsPlain "as" ∧ "as" ≠ "" ∧
      mysql.writeSelectEntry (.bare ("db.assets" ++ gap ++ "as-of.x")) =
        mysql.writeSelectEntry (.aliased "as-of.x" "db.assets") ∧
      postgres.writeTableEntry (.bare ("db.assets" ++ " " ++ "as")) =
        postgres.writeTableEntry (.aliased "as" "db.assets") := by
  intro gap
  have hgap : Alias.Gap gap := .word (by decide) (by decide) (by decide)
  have hblank : Alias.Gap " " := .blanks (by decide)
  have hname : Alias.IsPlain "db.assets" := by decide
  have hcolumn : Alias.IsColumnAlias "as-of.x" := by decide
  have htable : Alias.IsPlain "as" := by decide
  exact ⟨hgap, hblank, hname, hcolumn, htable, by decide,
    (inline_alias mysql hgap).1 _ _ hname hcolumn,
    (inline_alias postgres hblank).2 _ _ hname htable (by decide)⟩

end Dialect

end SqlCompose

import SqlCompose.Proofs.Text.Split
import SqlCompose.Proofs.Text.Trim
import SqlCompose.Query.Ordering
/-!
# Columns and directions in texts

A text that lists columns with their directions is read back to what was written
(`Ordering.parse_join`). Entries may stand between blanks, the words may have any letter case, and
a column may look like a word, end like an entry that has one, or have blanks inside. Only where
the column itself ends in a blank and a word, the word for its own direction cannot be left out.

A word is found where the text ends in it (`Ordering.beforeWord?_eq_some_iff`), and what is in
front of the blanks there is the column (`Ordering.columnBefore?_eq_some_iff`). As no word ends in
another one (`Ordering.spells_unique`), the word behind a column is the one that was written, and
the first that is tried does not hide the second.
-/

namespace SqlCompose.Ordering

/-! ### Entries of a text -/

/-- The word for a direction, in small letters. -/
def word : SortOrder → String
  | .asc => "asc"
  | .desc => "desc"

/-- Characters that are the word for a direction in some letter case. -/
def Spells (order : SortOrder) (cs : List Char) : Prop := cs.map Char.toLower = (word order).toList

instance (order : SortOrder) (cs : List Char) : Decidable (Spells order cs) :=
  inferInstanceAs (Decidable (_ = _))

/-- A column as it may be listed: trimmed, not empty and without commas. -/
structure IsColumn (column : String) : Prop where
  trimmed : Text.trim column = column
  ne_empty : column ≠ ""
  no_comma : ',' ∉ column.toList

instance (column : String) : Decidable (IsColumn column) :=
  decidable_of_iff (Text.trim column = column ∧ column ≠ "" ∧ ',' ∉ column.toList)
    ⟨fun h => ⟨h.1, h.2.1, h.2.2⟩, fun h => ⟨h.1, h.2, h.3⟩⟩

/-- A blank and a word for a direction behind it. -/
def IsBlankAndWord : List Char → Prop
  | [] => False
  | c :: cs => Text.isBlank c = true ∧ (Spells .asc cs ∨ Spells .desc cs)

instance : (cs : List Char) → Decidable (IsBlankAndWord cs)
  | [] => inferInstanceAs (Decidable False)
  | _ :: _ => inferInstanceAs (Decidable (_ ∧ _))

/-- A column that ends in a blank and a word for a direction. -/
def EndsInWord (column : String) : Prop := ∃ cs, cs <:+ column.toList ∧ IsBlankAndWord cs

instance (column : String) : Decidable (EndsInWord column) :=
  decidable_of_iff (∃ cs ∈ column.toList.tails, IsBlankAndWord cs)
    (exists_congr fun _ => and_congr_left fun _ => List.mem_tails _ _)

/-- **How a column and its direction are written** in a list: between blanks, with blanks and a
word behind the column or, where the direction is ascending, without them. -/
inductive Writes : String × SortOrder → String → Prop
  | worded {column gap text w w' : String} {order : SortOrder} (hcolumn : IsColumn column)
      (hgap : gap ≠ "" ∧ Text.AreBlank gap.toList) (htext : Spells order text.toList)
      (hw : Text.AreBlank w.toList) (hw' : Text.AreBlank w'.toList) :
      Writes (column, order) (w ++ (column ++ gap ++ text) ++ w')
  | bare {column w w' : String} (hcolumn : IsColumn column) (hend : ¬EndsInWord column)
      (hw : Text.AreBlank w.toList) (hw' : Text.AreBlank w'.toList) :
      Writes (column, .asc) (w ++ column ++ w')

/-! ### Words -/

variable {order order' : SortOrder} {cs head column : List Char}

/-- No word ends in another one. -/
theorem spells_unique {cs' front front' : List Char} (h : Spells order cs) (h' : Spells order' cs')
    (heq : front ++ cs = front' ++ cs') : order = order' := by
  have hsuffix : (word order).toList <:+ (front ++ cs).map Char.toLower := by
    rw [List.map_append, h]
    exact List.suffix_append _ _
  have hsuffix' : (word order').toList <:+ (front ++ cs).map Char.toLower := by
    rw [heq, List.map_append, h']
    exact List.suffix_append _ _
  have hword : ¬"asc".toList <:+ "desc".toList := by decide
  have hlength : "asc".toList.length ≤ "desc".toList.length := by decide
  -- both words end the same text, so the shorter one would end the longer
  cases order <;> cases order'
  · rfl
  · exact absurd (List.suffix_of_suffix_length_le hsuffix hsuffix' hlength) hword
  · exact absurd (List.suffix_of_suffix_length_le hsuffix' hsuffix hlength) hword
  · rfl

/-- Blanks and commas are no capital letters. -/
theorem toLower_eq_self {c : Char} (h : Text.isBlank c = true ∨ c = ',') : c.toLower = c := by
  have hcapital : ¬('A'.val ≤ c.val ∧ c.val ≤ 'Z'.val) := by
    rintro ⟨hle, hge⟩
    rw [UInt32.le_iff_toNat_le] at hle hge
    have hrange : 65 ≤ c.toNat ∧ c.toNat ≤ 90 := ⟨hle, hge⟩
    rcases h with hblank | hcomma
    · simp only [Text.isBlank, Bool.or_eq_true, Bool.and_eq_true, decide_eq_true_eq,
        beq_iff_eq] at hblank
      omega
    · have hnat : c.toNat = 44 := by
        rw [hcomma]
        rfl
      omega
  exact dif_neg hcapital

/-- Words have neither blanks nor commas. -/
theorem Spells.plain (h : Spells order cs) : ∀ c ∈ cs, Text.isBlank c = false ∧ c ≠ ',' := by
  have hall : ((word order).toList.all fun c => !Text.isBlank c && c != ',') = true := by
    cases order <;> rfl
  have hword : ∀ c ∈ (word order).toList, Text.isBlank c = false ∧ c ≠ ',' := by
    simpa using hall
  have hmem : ∀ c ∈ cs, c.toLower ∈ (word order).toList := fun c hc => by
    rw [← h]
    exact List.mem_map_of_mem hc
  -- a blank or a comma would stand in the small letters as it is
  refine fun c hc => ⟨Bool.eq_false_iff.mpr fun hblank => ?_, fun hcomma => ?_⟩
  · have hlower := (hword _ (hmem c hc)).1
    rw [toLower_eq_self (Or.inl hblank), hblank] at hlower
    cases hlower
  · have hlower := (hword _ (hmem c hc)).2
    rw [toLower_eq_self (Or.inr hcomma)] at hlower
    exact hlower hcomma

theorem Spells.ne_nil (h : Spells order cs) : cs ≠ [] := by
  rintro rfl
  cases order <;> cases h

theorem Spells.trimEndChars (h : Spells order cs) : Text.trimEndChars cs = cs := by
  obtain ⟨front, c, rfl⟩ := (List.eq_nil_or_concat' cs).resolve_left h.ne_nil
  have hc : Text.isBlank c = false := (h.plain c (by simp)).1
  have hend : Text.trimEndChars [c] = [c] := by
    rw [Text.trimEndChars, List.reverse_singleton,
      List.dropWhile_cons_of_neg (Bool.eq_false_iff.mp hc), List.reverse_singleton]
  exact Text.trimEndChars_append_of_trimmed hend (List.cons_ne_nil c []) front

/-- A word is found if the text ends in it. -/
theorem beforeWord?_eq_some_iff :
    beforeWord? (word order).toList cs = some head ↔
      ∃ text, cs = head ++ text ∧ Spells order text := by
  rw [beforeWord?]
  constructor
  · intro h
    obtain ⟨⟨hlength, htext⟩, heq⟩ := Option.ite_none_right_eq_some.mp h
    cases heq
    exact ⟨_, (List.take_append_drop _ cs).symm, htext⟩
  · rintro ⟨text, rfl, htext⟩
    -- the word has a fixed length, so the cut is at the end of `head`
    have hlength : text.length = (word order).toList.length := by
      rw [← htext, List.length_map]
    have hfront : (head ++ text).length - (word order).toList.length = head.length := by
      rw [List.length_append, hlength, Nat.add_sub_cancel]
    have hle : (word order).toList.length ≤ (head ++ text).length := by
      rw [List.length_append, hlength]
      exact Nat.le_add_left _ _
    rw [hfront, List.drop_left, List.take_left, if_pos ⟨hle, htext⟩]

/-- **A column is found** in front of a word if there are blanks between the two. -/
theorem columnBefore?_eq_some_iff :
    columnBefore? (word order).toList cs = some column ↔
      ∃ gap text, cs = column ++ gap ++ text ∧ column ≠ [] ∧ Text.trimEndChars column = column ∧
        gap ≠ [] ∧ Text.AreBlank gap ∧ Spells order text := by
  rw [columnBefore?]
  constructor
  · intro h
    cases hbefore : beforeWord? (word order).toList cs with
    | none =>
      rw [hbefore] at h
      cases h
    | some head =>
      obtain ⟨text, rfl, htext⟩ := beforeWord?_eq_some_iff.mp hbefore
      obtain ⟨gap, hgap, hhead⟩ := Text.exists_blanks_trimEndChars head
      rw [hbefore] at h
      obtain ⟨hcolumn, heq⟩ := Option.ite_none_right_eq_some.mp h
      cases heq
      rw [Bool.not_eq_true', List.isEmpty_eq_false_iff] at hcolumn
      refine ⟨gap, text, by rw [← hhead], hcolumn.2, Text.trimEndChars_trimEndChars head, ?_, hgap,
        htext⟩
      -- without a blank the column would not be shorter than what is in front of the word
      rintro rfl
      rw [List.append_nil] at hhead
      exact Nat.ne_of_lt hcolumn.1 (congrArg List.length hhead.symm)
  · rintro ⟨gap, text, rfl, hne, htrim, hgap, hblank, htext⟩
    rw [beforeWord?_eq_some_iff.mpr ⟨text, rfl, htext⟩]
    dsimp only
    rw [Text.trimEndChars_append hblank, htrim, if_pos]
    rw [List.length_append, Bool.not_eq_true', List.isEmpty_eq_false_iff]
    exact ⟨Nat.lt_add_of_pos_right (List.length_pos_of_ne_nil hgap), hne⟩

/-! ### Reading an entry -/

theorem words_eq : words = [((word .asc).toList, .asc), ((word .desc).toList, .desc)] := rfl

/-- With a word behind it a column has the direction of the word. -/
theorem entry_worded {gap text : List Char} (hne : column ≠ [])
    (htrim : Text.trimEndChars column = column) (hgap : gap ≠ []) (hblank : Text.AreBlank gap)
    (htext : Spells order text) :
    entry (column ++ gap ++ text) = (String.ofList column, order) := by
  have hfound : columnBefore? (word order).toList (column ++ gap ++ text) = some column :=
    columnBefore?_eq_some_iff.mpr ⟨gap, text, rfl, hne, htrim, hgap, hblank, htext⟩
  cases order with
  | asc =>
    rw [entry, words_eq, List.findSome?_cons, hfound]
    rfl
  | desc =>
    -- the other word is tried first, and is not found
    have hother : columnBefore? (word .asc).toList (column ++ gap ++ text) = none := by
      rw [Option.eq_none_iff_forall_ne_some]
      intro column' hcolumn'
      obtain ⟨gap', text', heq, -, -, -, -, htext'⟩ := columnBefore?_eq_some_iff.mp hcolumn'
      cases spells_unique htext htext' heq
    rw [entry, words_eq, List.findSome?_cons, hother, Option.map_none, List.findSome?_cons, hfound]
    rfl

/-- A column that does not end in a word is ascending. -/
theorem entry_bare {column : String} (h : ¬EndsInWord column) :
    entry column.toList = (column, .asc) := by
  have hnone : ∀ order, columnBefore? (word order).toList column.toList = none := by
    intro order
    rw [Option.eq_none_iff_forall_ne_some]
    intro front hfront
    obtain ⟨gap, text, heq, -, -, hgap, hblank, htext⟩ := columnBefore?_eq_some_iff.mp hfront
    -- the last of the blanks and the word are the end of the column
    obtain ⟨gap, c, rfl⟩ := (List.eq_nil_or_concat' gap).resolve_left hgap
    refine h ⟨c :: text, ⟨front ++ gap, by rw [heq]; simp⟩, hblank c (by simp), ?_⟩
    cases order with
    | asc => exact Or.inl htext
    | desc => exact Or.inr htext
  rw [entry, words_eq, List.findSome?_cons, hnone, List.findSome?_cons, hnone, Option.map_none,
    Option.map_none]
  exact congrArg (·, SortOrder.asc) String.ofList_toList

/-! ### Reading a list -/

theorem no_comma_of_areBlank {w : List Char} (hw : Text.AreBlank w) : ',' ∉ w := by
  intro h
  cases hw _ h

theorem IsColumn.trimChars {column : String} (h : IsColumn column) :
    Text.trimChars column.toList = column.toList := by
  have htrim := congrArg String.toList h.trimmed
  rwa [Text.trim, String.toList_ofList] at htrim

theorem IsColumn.toList_ne_nil {column : String} (h : IsColumn column) : column.toList ≠ [] :=
  mt String.toList_eq_nil_iff.mp h.ne_empty

variable {e : String × SortOrder} {part : String}

/-- What is written for a column has no commas, as the column has none. -/
theorem Writes.no_comma (h : Writes e part) : ',' ∉ part.toList := by
  cases h with
  | worded hcolumn hgap htext hw hw' =>
    simp only [String.toList_append, List.mem_append, not_or]
    exact ⟨⟨no_comma_of_areBlank hw, ⟨hcolumn.no_comma, no_comma_of_areBlank hgap.2⟩,
      fun h => (htext.plain _ h).2 rfl⟩, no_comma_of_areBlank hw'⟩
  | bare hcolumn hend hw hw' =>
    simp only [String.toList_append, List.mem_append, not_or]
    exact ⟨⟨no_comma_of_areBlank hw, hcolumn.no_comma⟩, no_comma_of_areBlank hw'⟩

/-- **What is written for a column** and its direction is read back to the two. -/
theorem Writes.read (h : Writes e part) :
    Text.trimChars part.toList ≠ [] ∧ entry (Text.trimChars part.toList) = e := by
  cases h with
  | @worded column gap text w w' order hcolumn hgap htext hw hw' =>
    have hne := hcolumn.toList_ne_nil
    have hgapne : gap.toList ≠ [] := mt String.toList_eq_nil_iff.mp hgap.1
    -- the column is trimmed in front and the word at the end
    have htrim : Text.trimChars (column.toList ++ gap.toList ++ text.toList) =
        column.toList ++ gap.toList ++ text.toList := by
      refine Text.trimChars_append ?_ htext.trimEndChars (by simp [hgapne]) htext.ne_nil
      exact Text.trimStartChars_append_of_trimmed
        (Text.trimStartChars_of_trimmed hcolumn.trimChars) hne _
    rw [String.toList_append, String.toList_append, Text.trimChars_between hw hw',
      String.toList_append, String.toList_append, htrim, entry_worded hne
        (Text.trimEndChars_of_trimmed hcolumn.trimChars) hgapne hgap.2 htext, String.ofList_toList]
    exact ⟨by simp [hgapne], rfl⟩
  | bare hcolumn hend hw hw' =>
    rw [String.toList_append, String.toList_append, Text.trimChars_between hw hw',
      hcolumn.trimChars]
    exact ⟨hcolumn.toList_ne_nil, entry_bare hend⟩

/-- A text is read part by part. -/
theorem parse_join_eq {parts : List String} (h : ∀ part ∈ parts, ',' ∉ part.toList) :
    parse (Text.join "," parts) =
      ((parts.map fun part => Text.trimChars part.toList).filter (!·.isEmpty)).map entry := by
  cases parts with
  | nil => rfl
  | cons part rest =>
    have hsplit : Text.split ',' (Text.join "," (part :: rest)) = part :: rest :=
      Text.split_join (List.cons_ne_nil part rest) h
    have hpieces : Text.splitChars ',' (Text.join "," (part :: rest)).toList =
        (part :: rest).map String.toList := by
      have hchars := congrArg (List.map String.toList) hsplit
      rw [Text.split, List.map_map] at hchars
      rw [← hchars]
      exact ((List.map_congr_left fun cs _ => String.toList_ofList).trans (List.map_id _)).symm
    rw [parse, hpieces, List.map_map]
    rfl

/-- **A list of columns and directions** comes back out of the text that it is written as. -/
theorem parse_join {es : List (String × SortOrder)} {parts : List String}
    (h : List.Forall₂ Writes es parts) : parse (Text.join "," parts) = es := by
  have hcommas : ∀ part ∈ parts, ',' ∉ part.toList := by
    induction h with
    | nil => exact nofun
    | cons he _ ih => exact List.forall_mem_cons.mpr ⟨he.no_comma, ih⟩
  -- without commas inside, the text is cut where it was joined
  rw [parse_join_eq hcommas]
  clear hcommas
  induction h with
  | nil => rfl
  | cons he _ ih =>
    obtain ⟨hne, hentry⟩ := he.read
    rw [List.map_cons, List.filter_cons_of_pos, List.map_cons, hentry, ih]
    rwa [Bool.not_eq_true', List.isEmpty_eq_false_iff]

/-- Columns that are words, that end like an entry with a word and that have blanks inside. -/
theorem parse_join_like_words :
    let es := [("created desc", .asc), ("desc", .desc), ("asc", .asc), ("größe in cm", .asc),
      ("ſ asc", SortOrder.desc)]
    let parts := ["created desc  ASC", " desc\tdEsC\n", "asc", " größe in cm", "ſ asc\u3000Desc"]
    List.Forall₂ Writes es parts ∧
      parse "created desc  ASC, desc\tdEsC\n,asc, größe in cm,ſ asc\u3000Desc" = es := by
  intro es parts
  have h : List.Forall₂ Writes es parts :=
    .cons (@Writes.worded "created desc" "  " "ASC" "" "" .asc (by decide) (by decide) (by decide)
      (by decide) (by decide)) <|
    .cons (@Writes.worded "desc" "\t" "dEsC" " " "\n" .desc (by decide) (by decide) (by decide)
      (by decide) (by decide)) <|
    .cons (@Writes.bare "asc" "" "" (by decide) (by decide) (by decide) (by decide)) <|
    .cons (@Writes.bare "größe in cm" " " "" (by decide) (by decide) (by decide) (by decide)) <|
    .cons (@Writes.worded "ſ asc" "\u3000" "Desc" "" "" .desc (by decide) (by decide) (by decide)
      (by decide) (by decide)) .nil
  exact ⟨h, parse_join h⟩

end SqlCompose.Ordering

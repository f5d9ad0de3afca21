import SqlCompose.Compile.Condition
import SqlCompose.Proofs.Positional.Plain
import SqlCompose.Proofs.Positional.Readable
import SqlCompose.Proofs.Query.Texts
/-!
# Conditions compile to readable fragments

One lemma for each rule of the compiler: if the texts of a layer are clean and what
stands inside it compiles to readable fragments, then so does the layer
(`Dialect.readable_conditionNode`). Where a rule writes a slot or something from inside,
what it writes behind that starts with a parenthesis, a comma or a blank.
-/

namespace SqlCompose

open Positional

/-! ### Compiled parts -/

namespace Compiled

/-- What was compiled is readable, unless it was refused. -/
def Readable (c : Compiled) : Prop := ∀ f, c = .ok f → f.Readable

theorem readable_ok {f : Fragment} (hf : f.Readable) : Readable (.ok f) := by
  rintro _ ⟨⟩
  exact hf

theorem readable_reject (e : Error) : Readable (reject e) := by
  rintro _ ⟨⟩

theorem readable_lift_error (e : Error) : Readable (lift (.error e)) := readable_reject e

theorem Readable.map {c : Compiled} (hc : c.Readable) {F : Fragment → Fragment}
    (hF : ∀ f, f.Readable → (F f).Readable) : Readable (c.map F) := by
  cases c with
  | error r => rintro _ ⟨⟩
  | ok f => exact readable_ok (hF f (hc f rfl))

theorem readable_lift_bind {α : Type} {x : Except Error α} {k : α → Compiled}
    (hk : ∀ y, x = .ok y → (k y).Readable) : Readable (lift x >>= k) := by
  cases x with
  | error e => exact readable_reject e
  | ok y => exact hk y rfl

theorem readable_lift_map {α : Type} {x : Except Error α} {k : α → Fragment}
    (hk : ∀ y, x = .ok y → (k y).Readable) : Readable ((lift x).map k) := by
  cases x with
  | error e => exact readable_reject e
  | ok y => exact readable_ok (hk y rfl)

/-- The fragments of readable parts in a row are readable. -/
theorem readable_of_sequence_eq_ok {cs : List Compiled} (hcs : ∀ c ∈ cs, c.Readable)
    {fs : List Fragment} (h : sequence cs = .ok fs) : ∀ f ∈ fs, f.Readable := by
  induction cs generalizing fs with
  | nil =>
    cases h
    exact fun f hf => absurd hf List.not_mem_nil
  | cons c rest ih =>
    cases c with
    | error r => cases h
    | ok f =>
      rw [sequence] at h
      split at h
      · next fs' hrest =>
        cases h
        -- the first fragment comes from the first part, and the others from the rest
        intro g hg
        rcases List.mem_cons.mp hg with rfl | hg
        · exact hcs (.ok g) List.mem_cons_self g rfl
        · exact ih (fun c' hc' => hcs c' (List.mem_cons_of_mem _ hc')) hrest g hg
      · cases h

theorem readable_sequence_map {cs : List Compiled} (hcs : ∀ c ∈ cs, c.Readable)
    {F : List Fragment → Fragment} (hF : ∀ fs, (∀ f ∈ fs, f.Readable) → (F fs).Readable) :
    Readable ((sequence cs).map F) := by
  cases h : sequence cs with
  | error r => rintro _ ⟨⟩
  | ok fs => exact readable_ok (hF fs (readable_of_sequence_eq_ok hcs h))

end Compiled

/-- What stands inside the part is readable. -/
abbrev Part.Readable (p : Part) : Prop := p.Each Compiled.Readable Compiled.Readable

/-! ### Conditions -/

theorem readable_emptyList (negated : Bool) : (emptyList negated).Readable := by
  have hnever : Clean "0=1" := by decide
  unfold emptyList
  split
  · exact trivial
  · exact Fragment.readable_text hnever.neutral

theorem Fragment.readable_entry (v : Value) : (Fragment.entry v).Readable := by
  have hnull : Clean "NULL" := by decide
  unfold Fragment.entry
  split
  · exact Fragment.readable_text hnull.neutral
  · exact Fragment.readable_slot v

/-- A readable fragment behind a text and in front of a closing parenthesis. -/
theorem Fragment.Readable.closed {f : Fragment} (hf : f.Readable) {s : String} (hs : Neutral s) :
    Fragment.Readable (text s ++ f ++ text ")") :=
  hf.enclosed hs delimits_closing

/-- A list in parentheses, with commas between its entries. -/
theorem Fragment.readable_list {s : String} (hs : Neutral s) {fs : List Fragment}
    (h : ∀ f ∈ fs, f.Readable) : Fragment.Readable (text s ++ join ", " fs ++ text ")") := by
  have hlist : (Fragment.join ", " fs).Readable :=
    Fragment.readable_join delimits_comma h
  exact hlist.closed hs

theorem Fragment.readable_tuple (names : List String) (row : List (String × Value)) :
    (Fragment.tuple names row).Readable := by
  refine Fragment.readable_list neutral_opening fun f hf => ?_
  obtain ⟨name, -, rfl⟩ := List.mem_map.mp hf
  exact Fragment.readable_entry _

namespace Dialect

variable {d : Dialect}

/-- The operand of a junction or a negation is readable if its text is clean. -/
theorem readable_asCondition (op : Operator) (message : String) {p : Part} (hp : p.Readable)
    (htexts : ∀ s ∈ p.texts, Clean s) : (p.asCondition op message).Readable := by
  cases p with
  | condition c => exact hp
  | expr sql =>
    have hsql : Clean sql := htexts sql (List.mem_singleton_self _)
    exact Compiled.readable_ok (Fragment.readable_text hsql.neutral)
  | _ => exact Compiled.readable_lift_error _

theorem readable_junction {op : Operator} (hop : Clean op.text) {parts : List Part}
    (hparts : ∀ p ∈ parts, p.Readable) (htexts : ∀ p ∈ parts, ∀ s ∈ p.texts, Clean s) :
    (junction op parts).Readable := by
  refine Compiled.readable_sequence_map (fun c hc => ?_) fun fs hfs => ?_
  · obtain ⟨p, hp, rfl⟩ := List.mem_map.mp hc
    exact readable_asCondition op _ (hparts p hp) (htexts p hp)
  · have hleft : ∀ f ∈ fs.filter (!·.isEmpty), f.Readable :=
      fun f hf => hfs f (List.mem_of_mem_filter hf)
    split
    · exact trivial
    · have hsep : Delimits (") " ++ op.text ++ " (") :=
        (delimits_closing_blank.append hop.neutral).append neutral_blank_opening
      exact (Fragment.readable_join hsep hleft).closed neutral_opening

theorem readable_negation {op : Operator} (hop : Clean op.text) {parts : List Part}
    (hparts : ∀ p ∈ parts, p.Readable) (htexts : ∀ p ∈ parts, ∀ s ∈ p.texts, Clean s) :
    (negation op parts).Readable := by
  unfold negation
  split
  · next part =>
    have hpart := readable_asCondition op "operand must be a condition"
      (hparts part (List.mem_singleton_self _)) (htexts part (List.mem_singleton_self _))
    refine hpart.map fun f hf => ?_
    split
    · exact hf
    · exact hf.closed (hop.neutral.append neutral_blank_opening)
  · exact Compiled.readable_lift_error _

/-- Whether a query has a row, whatever the query. -/
theorem readable_existence {op : Operator} (hop : Clean op.text) {parts : List Part}
    (hparts : ∀ p ∈ parts, p.Readable) : (existence op parts).Readable := by
  unfold existence
  split
  · next q =>
    have hq : q.Readable := hparts (.query q) (List.mem_singleton_self _)
    exact hq.map fun f hf => hf.closed (hop.neutral.append neutral_blank_opening)
  · exact Compiled.readable_lift_error _
  · exact Compiled.readable_lift_error _

/-! ### Conditions on columns -/

section Columns

variable (hd : d.Quotes)

include hd

/-- A column, an operator and a blank. -/
theorem Quotes.neutral_left {column word : String} (hcolumn : Clean column) (hword : Clean word) :
    Neutral (d.column column ++ " " ++ word ++ " ") :=
  (((hd.neutral_column hcolumn).append neutral_blank).append hword.neutral).append neutral_blank

theorem readable_listed {op : Operator} (hop : Clean op.text) {column : String}
    (hcolumn : Clean column) (vs : List Value) : (d.listed op column vs).Readable := by
  unfold listed
  dsimp only
  split
  · exact readable_emptyList _
  · refine Fragment.Readable.text_append ((hd.neutral_column hcolumn).append ?_)
      (Fragment.readable_entry _)
    split <;> exact Clean.neutral (by decide)
  · have hleft : Neutral (d.column column ++ " " ++ op.text ++ " (") :=
      (((hd.neutral_column hcolumn).append neutral_blank).append hop.neutral).append
        neutral_blank_opening
    refine Fragment.readable_list hleft fun f hf => ?_
    obtain ⟨v, -, rfl⟩ := List.mem_map.mp hf
    exact Fragment.readable_entry v

theorem readable_inQuery {op : Operator} (hop : Clean op.text) {names : List String}
    (hnames : ∀ s ∈ names, Clean s) {q : Compiled} (hq : q.Readable) :
    (d.inQuery op names q).Readable := by
  have hleft : Neutral (d.columnTuple names ++ " " ++ op.text ++ " (") :=
    (((hd.neutral_columnTuple hnames).append neutral_blank).append hop.neutral).append
      neutral_blank_opening
  exact hq.map fun f hf => hf.closed hleft

theorem readable_inRows {op : Operator} (hop : Clean op.text) {names : List String}
    (hnames : ∀ s ∈ names, Clean s) (rows : List (List (String × Value))) :
    (d.inRows op names rows).Readable := by
  have hleft : Neutral ("(" ++ d.columns names ++ ") " ++ op.text ++ " (") :=
    (((neutral_opening.append (hd.neutral_columns hnames)).append
      delimits_closing_blank.neutral).append hop.neutral).append neutral_blank_opening
  refine Fragment.readable_list hleft fun f hf => ?_
  obtain ⟨row, -, rfl⟩ := List.mem_map.mp hf
  exact Fragment.readable_tuple names row

theorem readable_memberOf {op : Operator} (hop : Clean op.text) {names : List String}
    (hnames : ∀ s ∈ names, Clean s) {right : Part} (hright : right.Readable) :
    (d.memberOf op names right).Readable := by
  unfold memberOf
  split
  · exact Compiled.readable_ok (readable_emptyList _)
  · split
    · exact readable_inQuery hd hop hnames hright
    · refine Compiled.readable_lift_map fun vs _ => ?_
      exact readable_listed hd hop (hnames _ (List.mem_singleton_self _)) vs
    · exact Compiled.readable_ok (readable_inRows hd hop hnames _)
    · exact Compiled.readable_lift_error _

theorem readable_membership {op : Operator} (hop : Clean op.text) {parts : List Part}
    (hparts : ∀ p ∈ parts, p.Readable) (htexts : ∀ p ∈ parts.take 1, ∀ s ∈ p.texts, Clean s) :
    (d.membership op parts).Readable := by
  unfold membership
  split
  · next left right =>
    refine Compiled.readable_lift_bind fun names hnames => ?_
    refine readable_memberOf hd hop (fun s hs => ?_) (hparts right (by simp))
    exact htexts left List.mem_cons_self s (Operand.mem_texts_of_memberColumns hnames hs)
  · exact Compiled.readable_lift_error _

theorem readable_range {op : Operator} (hop : Clean op.text) {parts : List Part}
    (htexts : ∀ p ∈ parts.take 1, ∀ s ∈ p.texts, Clean s) : (d.range op parts).Readable := by
  unfold range
  split
  · next column low high =>
    refine Compiled.readable_lift_bind fun name hname => ?_
    refine Compiled.readable_lift_bind fun low _ => Compiled.readable_lift_bind fun high _ => ?_
    have hcolumn : Clean name :=
      htexts column List.mem_cons_self name (Operand.mem_texts_of_asColumn hname)
    -- up to the first bound, whose slot stands last
    have hlow : Fragment.Readable
        (Fragment.text (d.column name ++ " " ++ op.text ++ " ") ++ Fragment.slot low) :=
      Fragment.Readable.text_append (hd.neutral_left hcolumn hop) (Fragment.readable_slot low)
    -- the word between the bounds starts apart from the slot in front of it
    have hword : Delimits " AND " := ⟨Clean.neutral (by decide), _, _, rfl, rfl⟩
    refine Compiled.readable_ok ?_
    rw [List.append_assoc]
    exact hlow.append (Fragment.Readable.text_append hword.neutral (Fragment.readable_slot high))
      (Fragment.startsApart_text_append hword.apart _)
  · exact Compiled.readable_lift_error _

theorem readable_like {op : Operator} (likeOp : LikeOp) {parts : List Part}
    (htexts : ∀ p ∈ parts.take 1, ∀ s ∈ p.texts, Clean s) :
    (d.like op likeOp parts).Readable := by
  have hkeyword : Clean likeOp.keyword := by
    unfold LikeOp.keyword
    split <;> decide
  have hjoiner : Clean likeOp.joiner.text := by
    cases likeOp.joiner <;> decide
  have hsep : Delimits (" " ++ likeOp.joiner.text ++ " ") :=
    (delimits_blank.append hjoiner.neutral).append neutral_blank
  refine Compiled.readable_lift_map fun m hm => ?_
  obtain ⟨first, rest, rfl, hcolumn⟩ := Operand.column_of_matching hm
  -- the column is the only text of the operands that is written
  have hfits : ∀ v, (d.fits likeOp m v).Readable := fun v =>
    Fragment.Readable.text_append
      (hd.neutral_left (htexts first List.mem_cons_self _ hcolumn) hkeyword)
      (Fragment.readable_slot _)
  unfold fitsAny
  split
  · exact readable_emptyList _
  · refine Fragment.readable_join hsep fun f hf => ?_
    obtain ⟨v, -, rfl⟩ := List.mem_map.mp hf
    exact hfits v

theorem readable_comparison {op : Operator} (hop : Clean op.text) {parts : List Part}
    (hparts : ∀ p ∈ parts, p.Readable) (htexts : ∀ p ∈ parts.take 1, ∀ s ∈ p.texts, Clean s) :
    (d.comparison op parts).Readable := by
  unfold comparison
  split
  · next column right =>
    refine Compiled.readable_lift_bind fun name hname => ?_
    -- the three right-hand sides differ in what stands behind the operator
    have hleft : Neutral (d.column name ++ " " ++ op.text ++ " ") :=
      hd.neutral_left (htexts column List.mem_cons_self name (Operand.mem_texts_of_asColumn hname))
        hop
    have hnull : Clean "NULL" := by decide
    dsimp only
    split
    · next q =>
      have hq : q.Readable := hparts (.query q) (by simp)
      exact hq.map fun f hf => hf.closed (hleft.append neutral_opening)
    · exact Compiled.readable_ok
        (Fragment.readable_text (hleft.append hnull.neutral))
    · refine Compiled.readable_lift_bind fun v _ => Compiled.readable_ok ?_
      exact Fragment.Readable.text_append hleft (Fragment.readable_slot v)
  · exact Compiled.readable_lift_error _

/-! ### Layers of conditions -/

theorem readable_operator {op : Operator} {parts : List Part} (hparts : ∀ p ∈ parts, p.Readable)
    (htexts : ∀ s ∈ (ConditionNode.operator op parts).ownTexts, Clean s) :
    (d.operator op parts).Readable := by
  -- the text of the operator and the texts of its operands
  have hop : Clean op.text := htexts op.text List.mem_cons_self
  have htextual : ∀ p ∈ op.textual parts, ∀ s ∈ p.texts, Clean s := fun p hp s hs =>
    htexts s (List.mem_cons_of_mem _ (List.mem_flatMap.mpr ⟨p, hp, hs⟩))
  cases op with
  | and | or => exact readable_junction hop hparts htextual
  | not => exact readable_negation hop hparts htextual
  | between | notBetween => exact readable_range hd hop htextual
  | isIn | notIn => exact readable_membership hd hop hparts htextual
  | like likeOp => exact readable_like hd likeOp htextual
  | hasRow | hasNoRow => exact readable_existence hop hparts
  | compare text => exact readable_comparison hd hop hparts htextual

theorem readable_pair {column : String} (hcolumn : Clean column) {v : HashValue Compiled}
    (hv : ∀ q, v = .query q → q.Readable) : (d.pair column v).Readable := by
  have hop : Clean Operator.isIn.text := by decide
  have hnull : Clean " IS NULL" := by decide
  have hequals : Clean "=" := by decide
  have hname : Neutral (d.column column) := hd.neutral_column hcolumn
  unfold pair
  split
  · exact Compiled.readable_ok (readable_listed hd hop hcolumn _)
  · refine readable_inQuery hd hop (fun s hs => ?_) (hv _ rfl)
    rw [List.mem_singleton.mp hs]
    exact hcolumn
  · exact Compiled.readable_ok (Fragment.readable_text (hname.append hnull.neutral))
  · exact Compiled.readable_ok
      (Fragment.Readable.text_append (hname.append hequals.neutral) (Fragment.readable_slot _))

theorem readable_hash {pairs : List (String × HashValue Compiled)}
    (hpairs : ∀ p ∈ pairs, ∀ q, p.2 = .query q → q.Readable)
    (htexts : ∀ p ∈ pairs, Clean p.1) : (d.hash pairs).Readable := by
  refine Compiled.readable_sequence_map (fun c hc => ?_) fun fs hfs => ?_
  · obtain ⟨p, hp, rfl⟩ := List.mem_map.mp hc
    exact readable_pair hd (htexts p hp) (hpairs p hp)
  · split
    · exact trivial
    · exact hfs _ (List.mem_singleton_self _)
    · have hsep : Delimits ") AND (" := ⟨Clean.neutral (by decide), _, _, rfl, rfl⟩
      exact (Fragment.readable_join hsep hfs).closed neutral_opening

/-- A layer of a condition with clean texts is readable if what stands inside is. -/
theorem readable_conditionNode {n : ConditionNode Compiled Compiled}
    (hn : n.Each Compiled.Readable Compiled.Readable) (htexts : ∀ s ∈ n.ownTexts, Clean s) :
    (d.conditionNode n).Readable := by
  cases n with
  | raw sql =>
    have hsql : Clean sql := htexts sql (List.mem_singleton_self _)
    exact Compiled.readable_ok (Fragment.readable_text hsql.neutral)
  | hash pairs =>
    exact readable_hash hd hn fun p hp => htexts p.1 (List.mem_map_of_mem hp)
  | operator op parts => exact readable_operator hd hn htexts

end Columns

end Dialect

end SqlCompose

import SqlCompose.Proofs.Parallel.Text
import SqlCompose.Proofs.Query.Nesting
import SqlCompose.Proofs.Query.Texts
import SqlCompose.Proofs.Session.Agreement
import SqlCompose.Proofs.Session.Related
/-!
# Conditions under similar targets

Over conditions and queries that are written as related texts, every kind of condition is
written as related texts. What stands at the open places of a layer is a pair of sessions
here, one for each target (`Twin`), and the layer for one of them has one half of each
(`Twin.left`, `Twin.right`).
-/

namespace SqlCompose

/-- What is written for one condition or query under two targets. -/
abbrev Twin := Session String × Session String

/-- Twins that are related. -/
def Twin.Alike (R : String → String → Prop) (x : Twin) : Prop := Session.Related R x.1 x.2

/-- The operands under the first of two targets. -/
abbrev Operand.left (o : Operand Twin Twin) : Operand (Session String) (Session String) :=
  o.map Prod.fst Prod.fst

/-- The operands under the second of two targets. -/
abbrev Operand.right (o : Operand Twin Twin) : Operand (Session String) (Session String) :=
  o.map Prod.snd Prod.snd

namespace Target.Similar

open Session

variable {G : String → Prop} {R : String → String → Prop} {t t' : Target} (h : Similar G R t t')

include h

/-! ### Texts of conditions -/

/-- What stands on the left-hand side of an operator, and the operator. -/
theorem withOperator {op : Operator} (hop : R op.text op.text) {s s' : String} (hs : R s s') :
    R (s ++ " " ++ op.text) (s' ++ " " ++ op.text) :=
  h.between (by decide) hs hop

/-- An operator between what stands on its left-hand side and a list in parentheses. -/
theorem before_list {op : Operator} (hop : R op.text op.text) {s s' u u' : String} (hs : R s s')
    (hu : R u u') :
    R (s ++ " " ++ op.text ++ " (" ++ u ++ ")") (s' ++ " " ++ op.text ++ " (" ++ u' ++ ")") :=
  h.before_enclosed (h.withOperator hop hs) hu

theorem emptyList (negated : Bool) :
    R (Session.emptyList negated) (Session.emptyList negated) := by
  cases negated with
  | false => exact h.word (by decide)
  | true => exact h.word (by decide)

/-! ### Values -/

theorem slot (v : Value) : Related R (Session.slot v) (Session.slot v) :=
  related_slot (fun n => h.word (Text.ownWord_placeholderName n)) v

theorem entry (v : Value) : Related R (Session.entry v) (Session.entry v) := by
  unfold Session.entry
  split
  · exact related_pure (h.word (by decide))
  · exact h.slot v

theorem tuple (names : List String) (row : List (String × Value)) :
    Related R (Session.tuple names row) (Session.tuple names row) := by
  refine (related_mapM fun n _ => h.entry _).map fun ss ss' hss => ?_
  exact h.enclosed (h.join (h.word (by decide)) hss)

theorem listed {op : Operator} (hop : R op.text op.text) {column : String}
    (hcolumn : G column) (vs : List Value) :
    Related R (t.dialect.writeListed op column vs) (t'.dialect.writeListed op column vs) := by
  unfold Dialect.writeListed
  dsimp only
  split
  · exact related_pure (h.emptyList _)
  · refine (h.entry _).map fun s s' hs => h.append (h.append (h.column hcolumn) (h.word ?_)) hs
    split <;> decide
  · refine (related_mapM fun v _ => h.entry v).map fun ss ss' hss => ?_
    exact h.before_list hop (h.column hcolumn) (h.join (h.word (by decide)) hss)

theorem inQuery {op : Operator} (hop : R op.text op.text) {names : List String}
    (hnames : ∀ s ∈ names, G s) {x : Twin} (hx : x.Alike R) :
    Related R (t.dialect.writeInQuery op names x.1) (t'.dialect.writeInQuery op names x.2) :=
  Related.map hx fun _ _ hs => h.before_list hop (h.columnTuple hnames) hs

theorem inRows {op : Operator} (hop : R op.text op.text) {names : List String}
    (hnames : ∀ s ∈ names, G s) (rows : List (List (String × Value))) :
    Related R (t.dialect.writeInRows op names rows) (t'.dialect.writeInRows op names rows) := by
  refine (related_mapM fun row _ => h.tuple names row).map fun ss ss' hss => ?_
  exact h.before_enclosed (h.enclosed_before " " (by decide) (h.columns hnames) hop)
    (h.join (h.word (by decide)) hss)

/-- Columns in what is on the right-hand side of a membership. -/
theorem memberOf {op : Operator} (hop : R op.text op.text) {names : List String}
    (hnames : ∀ s ∈ names, G s) {o : Operand Twin Twin}
    (ho : o.Each (Twin.Alike R) (Twin.Alike R)) :
    Related R (t.dialect.writeMemberOf op names o.left)
      (t'.dialect.writeMemberOf op names o.right) := by
  unfold Dialect.writeMemberOf
  rw [Operand.listsNothing_map, Operand.listsNothing_map]
  split
  · exact related_pure (h.emptyList _)
  · cases o with
    | query x => exact h.inQuery hop hnames ho
    | rows rows =>
      rcases names with _ | ⟨name, _ | ⟨name', rest⟩⟩
      · exact h.inRows hop hnames rows
      · refine related_lift_bind _ fun vs _ => ?_
        exact h.listed hop (hnames name List.mem_cons_self) vs
      · exact h.inRows hop hnames rows
    | _ =>
      -- only a single column is looked for in a list
      rcases names with _ | ⟨name, _ | ⟨name', rest⟩⟩
      · exact related_lift_error _
      · refine related_lift_bind _ fun vs _ => ?_
        exact h.listed hop (hnames name List.mem_cons_self) vs
      · exact related_lift_error _

/-! ### Operators -/

/-- An operand of a junction or a negation. -/
theorem restriction (op : Operator) (message : String) {o : Operand Twin Twin}
    (ho : o.Each (Twin.Alike R) (Twin.Alike R)) (htexts : ∀ s ∈ o.texts, G s) :
    Related R (ofOperand op message o.left) (ofOperand op message o.right) := by
  cases o with
  | condition x => exact ho
  | expr sql => exact related_pure (h.given (htexts sql (List.mem_singleton_self sql)))
  | _ => exact related_lift_error _

theorem junction {op : Operator} (hop : R op.text op.text) {os : List (Operand Twin Twin)}
    (hos : ∀ o ∈ os, o.Each (Twin.Alike R) (Twin.Alike R))
    (htexts : ∀ o ∈ os, ∀ s ∈ o.texts, G s) :
    Related R (Dialect.writeJunction op (os.map Operand.left))
      (Dialect.writeJunction op (os.map Operand.right)) := by
  unfold Dialect.writeJunction
  rw [List.mapM_map, List.mapM_map]
  refine (related_mapM fun o ho => h.restriction op _ (hos o ho) (htexts o ho)).bind
    fun ss ss' hss => ?_
  have hkept := h.filter hss
  -- as many texts are left on both sides
  have hempty : (ss.filter (!·.isEmpty)).isEmpty = (ss'.filter (!·.isEmpty)).isEmpty := by
    rw [Bool.eq_iff_iff, List.isEmpty_iff_length_eq_zero, List.isEmpty_iff_length_eq_zero,
      hkept.length_eq]
  dsimp only
  rw [hempty]
  split
  · exact related_pure (h.word (by decide))
  · exact related_pure (h.join_enclosed hop hkept)

theorem negation {op : Operator} (hop : R op.text op.text) {os : List (Operand Twin Twin)}
    (hos : ∀ o ∈ os, o.Each (Twin.Alike R) (Twin.Alike R))
    (htexts : ∀ o ∈ os, ∀ s ∈ o.texts, G s) :
    Related R (Dialect.writeNegation op (os.map Operand.left))
      (Dialect.writeNegation op (os.map Operand.right)) := by
  rcases os with _ | ⟨o, _ | ⟨o', rest⟩⟩
  · exact related_lift_error _
  · have ho := h.restriction op "operand must be a condition" (hos o List.mem_cons_self)
      (htexts o List.mem_cons_self)
    refine ho.bind fun s s' hs => ?_
    rw [h.isEmpty hs]
    split
    · exact related_pure hs
    · exact related_pure (h.before_enclosed hop hs)
  · exact related_lift_error _

theorem range {op : Operator} (hop : R op.text op.text) {os : List (Operand Twin Twin)}
    (htexts : ∀ o ∈ os.take 1, ∀ s ∈ o.texts, G s) :
    Related R (t.dialect.writeRange op (os.map Operand.left))
      (t'.dialect.writeRange op (os.map Operand.right)) := by
  rcases os with _ | ⟨o, _ | ⟨o', _ | ⟨o₃, _ | ⟨o₄, rest⟩⟩⟩⟩
  · exact related_lift_error _
  · exact related_lift_error _
  · exact related_lift_error _
  · simp only [List.map_cons, List.map_nil, Dialect.writeRange, Operand.asColumn_map,
      Operand.asValue_map]
    refine related_lift_bind _ fun name hname => ?_
    refine related_lift_bind _ fun low _ => related_lift_bind _ fun high _ => ?_
    refine (h.slot low).bind fun s s' hs => (h.slot high).map fun u u' hu => ?_
    have hcolumn : R (t.dialect.column name) (t'.dialect.column name) :=
      h.column (htexts o List.mem_cons_self name (Operand.mem_texts_of_asColumn hname))
    exact h.between (by decide) (h.between (by decide) (h.withOperator hop hcolumn) hs) hu
  · exact related_lift_error _

theorem membership {op : Operator} (hop : R op.text op.text) {os : List (Operand Twin Twin)}
    (hos : ∀ o ∈ os, o.Each (Twin.Alike R) (Twin.Alike R))
    (htexts : ∀ o ∈ os.take 1, ∀ s ∈ o.texts, G s) :
    Related R (t.dialect.writeMembership op (os.map Operand.left))
      (t'.dialect.writeMembership op (os.map Operand.right)) := by
  rcases os with _ | ⟨o, _ | ⟨o', _ | ⟨o₃, rest⟩⟩⟩
  · exact related_lift_error _
  · exact related_lift_error _
  · simp only [List.map_cons, List.map_nil, Dialect.writeMembership, Operand.memberColumns_map]
    refine related_lift_bind _ fun names hnames => ?_
    refine h.memberOf hop (fun s hs => ?_) (hos o' (by simp))
    exact htexts o List.mem_cons_self s (Operand.mem_texts_of_memberColumns hnames hs)
  · exact related_lift_error _

theorem like {op : Operator} (likeOp : LikeOp) {os : List (Operand Twin Twin)}
    (htexts : ∀ o ∈ os.take 1, ∀ s ∈ o.texts, G s) :
    Related R (t.dialect.writeLike op likeOp (os.map Operand.left))
      (t'.dialect.writeLike op likeOp (os.map Operand.right)) := by
  unfold Dialect.writeLike
  rw [Operand.matching_map, Operand.matching_map]
  refine related_lift_bind _ fun m hm => ?_
  obtain ⟨o, rest, rfl, hcolumn⟩ := Operand.column_of_matching hm
  have hname := h.column (htexts o List.mem_cons_self m.column hcolumn)
  have hkeyword : R likeOp.keyword likeOp.keyword := by
    refine h.word ?_
    unfold LikeOp.keyword
    split <;> decide
  -- a comparison is a name, a keyword and an entry, and the first two stand on both sides
  have hfits : ∀ v,
      Related R (t.dialect.writeFits likeOp m v) (t'.dialect.writeFits likeOp m v) := by
    intro v
    refine (h.slot _).map fun s s' hs => ?_
    exact h.between (by decide) (h.between (by decide) hname hkeyword) hs
  split
  · exact related_pure (h.emptyList _)
  · refine (related_mapM fun v _ => hfits v).map fun ss ss' hss => h.join (h.word ?_) hss
    cases likeOp.joiner <;> decide

theorem existence {op : Operator} (hop : R op.text op.text) {os : List (Operand Twin Twin)}
    (hos : ∀ o ∈ os, o.Each (Twin.Alike R) (Twin.Alike R)) :
    Related R (Dialect.writeExistence op (os.map Operand.left))
      (Dialect.writeExistence op (os.map Operand.right)) := by
  rcases os with _ | ⟨o, _ | ⟨o', rest⟩⟩
  · exact related_lift_error _
  · cases o with
    | query x =>
      -- the query stands in parentheses behind the operator
      exact Related.map (hos _ List.mem_cons_self) fun s s' hs => h.before_enclosed hop hs
    | _ => exact related_lift_error _
  · cases o <;> exact related_lift_error _

theorem comparison {op : Operator} (hop : R op.text op.text) {os : List (Operand Twin Twin)}
    (hos : ∀ o ∈ os, o.Each (Twin.Alike R) (Twin.Alike R))
    (htexts : ∀ o ∈ os.take 1, ∀ s ∈ o.texts, G s) :
    Related R (t.dialect.writeComparison op (os.map Operand.left))
      (t'.dialect.writeComparison op (os.map Operand.right)) := by
  rcases os with _ | ⟨o, _ | ⟨o', _ | ⟨o₃, rest⟩⟩⟩
  · exact related_lift_error _
  · exact related_lift_error _
  · simp only [List.map_cons, List.map_nil, Dialect.writeComparison, Operand.asColumn_map]
    refine related_lift_bind _ fun name hname => ?_
    have hcolumn : R (t.dialect.column name) (t'.dialect.column name) :=
      h.column (htexts o List.mem_cons_self name (Operand.mem_texts_of_asColumn hname))
    have hleft := h.withOperator hop hcolumn
    have hbound : ∀ v, Related R
        (Session.slot v >>= fun s => pure (t.dialect.column name ++ " " ++ op.text ++ " " ++ s))
        (Session.slot v >>= fun s => pure (t'.dialect.column name ++ " " ++ op.text ++ " " ++ s)) :=
      fun v => (h.slot v).map fun s s' hs => h.between (by decide) hleft hs
    cases o' with
    | query x =>
      exact Related.map (hos (.query x) (by simp)) fun s s' hs => h.before_list hop hcolumn hs
    | value v =>
      -- a null is written, every other value is bound
      cases v with
      | null => exact related_pure (h.append hleft (h.word (by decide)))
      | _ => exact hbound _
    | expr text => exact hbound _
    | _ => exact related_lift_error _
  · exact related_lift_error _

/-! ### Layers of conditions -/

theorem operator {op : Operator} {os : List (Operand Twin Twin)}
    (hos : ∀ o ∈ os, o.Each (Twin.Alike R) (Twin.Alike R))
    (htexts : ∀ s ∈ (ConditionNode.operator op os).ownTexts, G s) :
    Related R (t.dialect.writeOperator op (os.map Operand.left))
      (t'.dialect.writeOperator op (os.map Operand.right)) := by
  -- the text of the operator and the texts of its operands
  have hop : R op.text op.text := h.given (htexts op.text List.mem_cons_self)
  have htextual : ∀ o ∈ op.textual os, ∀ s ∈ o.texts, G s := fun o ho s hs =>
    htexts s (List.mem_cons_of_mem _ (List.mem_flatMap.mpr ⟨o, ho, hs⟩))
  cases op with
  | and | or => exact h.junction hop hos htextual
  | not => exact h.negation hop hos htextual
  | between | notBetween => exact h.range hop htextual
  | isIn | notIn => exact h.membership hop hos htextual
  | like likeOp => exact h.like likeOp htextual
  | hasRow | hasNoRow => exact h.existence hop hos
  | compare text => exact h.comparison hop hos htextual

theorem pair {column : String} (hcolumn : G column) {v : HashValue Twin}
    (hv : ∀ x, v = .query x → x.Alike R) :
    Related R (t.dialect.writePair column (v.map Prod.fst))
      (t'.dialect.writePair column (v.map Prod.snd)) := by
  have hop : R Operator.isIn.text Operator.isIn.text := h.word (by decide)
  cases v with
  | list vs => exact h.listed hop hcolumn vs
  | query x =>
    refine h.inQuery hop (fun s hs => ?_) (hv x rfl)
    rwa [List.mem_singleton.mp hs]
  | value v =>
    have hbound : Related R (Session.slot v >>= fun s => pure (t.dialect.column column ++ "=" ++ s))
        (Session.slot v >>= fun s => pure (t'.dialect.column column ++ "=" ++ s)) :=
      (h.slot v).map fun s s' hs => h.between (by decide) (h.column hcolumn) hs
    cases v with
    | null => exact related_pure (h.append (h.column hcolumn) (h.word (by decide)))
    | _ => exact hbound

theorem hash {pairs : List (String × HashValue Twin)}
    (hpairs : ∀ q ∈ pairs, ∀ x, q.2 = .query x → x.Alike R)
    (htexts : ∀ q ∈ pairs, G q.1) :
    Related R (t.dialect.writeHash (pairs.map fun q => (q.1, q.2.map Prod.fst)))
      (t'.dialect.writeHash (pairs.map fun q => (q.1, q.2.map Prod.snd))) := by
  unfold Dialect.writeHash
  rw [List.mapM_map, List.mapM_map]
  refine (related_mapM fun q hq => h.pair (htexts q hq) (hpairs q hq)).bind fun ss ss' hss => ?_
  -- none, one, or several texts
  cases hss with
  | nil => exact related_pure (h.word (by decide))
  | cons hs hrest =>
    cases hrest with
    | nil => exact related_pure hs
    | cons hs' hrest =>
      have hword : R "AND" "AND" := h.word (by decide)
      exact related_pure (h.join_enclosed hword (.cons hs (.cons hs' hrest)))

/-- **A layer of a condition** is written as related texts if what stands inside is. -/
theorem conditionNode {n : ConditionNode Twin Twin} (hn : n.Each (Twin.Alike R) (Twin.Alike R))
    (htexts : ∀ s ∈ n.ownTexts, G s) :
    Related R (t.dialect.writeConditionNode (n.map Prod.fst Prod.fst))
      (t'.dialect.writeConditionNode (n.map Prod.snd Prod.snd)) := by
  cases n with
  | raw sql => exact related_pure (h.given (htexts sql (List.mem_singleton_self sql)))
  | hash pairs => exact h.hash hn fun q hq => htexts q.1 (List.mem_map_of_mem hq)
  | operator op os => exact h.operator hn htexts

end Target.Similar

end SqlCompose

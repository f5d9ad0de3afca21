import SqlCompose.Condition.Build
import SqlCompose.Dialect.MySql
import SqlCompose.Proofs.Boolean.Structure
import SqlCompose.Proofs.Session.Membership
/-!
# Vacuous lists

On every row, an empty `IN` or `LIKE` list is false and an empty `NOT IN` or `NOT LIKE` list
is true. The first is written as a comparison that is false. The second is written as no text
at all, so that it drops out of the junction or the negation that it stands in, whatever its
truth value would do there.

`Target.lists_drop` says what the text of a condition over lists is worth: the truth value of
the condition without the operands that are dropped. This is the truth value of the condition
itself if the dropped operands are units of their junctions (`Formula.DropsUnits`): true under
`AND` and false under `OR`. `Target.negated_vacuous` is a condition with another truth value
than its text.
-/

namespace SqlCompose

/-! ### Conditions over lists -/

/-- The operator that joins conditions like this. -/
def Joiner.operator : Joiner → Operator
  | and => .and
  | or => .or

namespace Predicate

/-- The truth value and the text of an empty list. -/
def ofNothing (negated : Bool) : Bool × String := (negated, if negated then "" else "0=1")

/-- The truth value that a predicate has on every row, and its text: those of an empty list,
or of a junction without operands. -/
def constant? : Predicate → Option (Bool × String)
  | applied .and [] => some (true, "")
  | applied .or [] => some (false, "")
  | applied .isIn [_, right] => if right.listsNothing then some (ofNothing false) else none
  | applied .notIn [_, right] => if right.listsNothing then some (ofNothing true) else none
  | applied (.like likeOp) operands =>
    match Operand.matching (.like likeOp) operands with
    | .ok m => if m.patterns.isEmpty then some (ofNothing likeOp.negated) else none
    | .error _ => none
  | _ => none

/-- A predicate that a condition over lists is made of. -/
inductive OfList : Predicate → Prop
  /-- A single column in a list. -/
  | member {op : Operator} {left right : Operand Condition Query} {name : String}
      {vs : List Value} (hop : op = .isIn ∨ op = .notIn)
      (hleft : left.memberColumns op = .ok [name])
      (hright : right.memberValues op name = .ok vs) : OfList (applied op [left, right])
  /-- A column that fits one value of a list. -/
  | pattern (likeOp : LikeOp) (m : Operand.Matching) (v : Value) : OfList (pattern likeOp m v)
  /-- A column that fits the values of an empty list. -/
  | noPattern {likeOp : LikeOp} {operands : List (Operand Condition Query)}
      {m : Operand.Matching} (hm : Operand.matching (.like likeOp) operands = .ok m)
      (hnone : m.patterns = []) : OfList (applied (.like likeOp) operands)
  /-- A junction of nothing. -/
  | noOperand (j : Joiner) : OfList (applied j.operator [])

end Predicate

/-- **A condition over lists**, and what it says: single columns in lists of values, columns
that fit lists of values, and junctions and negations of such conditions. -/
inductive Condition.OverLists : Condition → Formula Predicate → Prop
  | list {op : Operator} {operands : List (Operand Condition Query)}
      (h : (Predicate.applied op operands).OfList) :
      OverLists ⟨.operator op operands⟩ (.leaf (.applied op operands))
  | patterns {likeOp : LikeOp} {operands : List (Operand Condition Query)}
      {m : Operand.Matching} (hm : Operand.matching (.like likeOp) operands = .ok m)
      (hsome : m.patterns ≠ []) :
      OverLists ⟨.operator (.like likeOp) operands⟩
        (.fold likeOp.joiner (m.patterns.map fun v => .leaf (.pattern likeOp m v)))
  | junction (j : Joiner) {parts : List (Condition × Formula Predicate)} (hsome : parts ≠ [])
      (h : ∀ p ∈ parts, OverLists p.1 p.2) :
      OverLists ⟨.operator j.operator (parts.map fun p => .condition p.1)⟩
        (.fold j (parts.map Prod.snd))
  | negation {c : Condition} {φ : Formula Predicate} (h : OverLists c φ) :
      OverLists ⟨.operator .not [.condition c]⟩ (.negated φ)

/-! ### Truth values -/

/-- The truth value of a leaf if these hold: a constant has its own. -/
def Leaf.worth (holds : Leaf → Bool) (l : Leaf) : Bool :=
  match l.predicate.constant? with
  | some (b, _) => b
  | none => holds l

/-! ### Texts of predicates -/

namespace Target

variable {t : Target}

/-- A predicate of a list is written as what stands for an empty list, or as some text. -/
theorem writePredicate_ofList {p : Predicate} (hp : p.OfList) :
    (t.writePredicate p).Succeeds ∧
      match p.constant? with
      | some (_, s) => t.writePredicate p = pure s
      | none => (t.writePredicate p).WritesText := by
  cases hp with
  | @member op left right name vs hop hleft hright =>
    have hwrite : t.writePredicate (.applied op [left, right]) =
        t.dialect.writeListed op name vs :=
      (writePredicate_applied op _).trans (t.writeCondition_single hop hleft hright)
    have hempty := Operand.listsNothing_eq hright
    refine ⟨hwrite ▸ t.dialect.succeeds_writeListed op name vs, ?_⟩
    rw [hwrite]
    cases vs with
    | nil =>
      -- no text for `NOT IN`, and the false comparison for `IN`
      rcases hop with rfl | rfl <;> simp only [Predicate.constant?, hempty] <;> rfl
    | cons v vs =>
      have hconstant : (Predicate.applied op [left, right]).constant? = none := by
        rcases hop with rfl | rfl <;> simp only [Predicate.constant?, hempty] <;> rfl
      rw [hconstant]
      exact t.dialect.writesText_listed (fun _ => List.cons_ne_nil v vs) name
  | pattern likeOp m v =>
    exact ⟨t.dialect.succeeds_writeFits likeOp m v, t.dialect.writesText_fits likeOp m v⟩
  | @noPattern likeOp operands m hm hnone =>
    have hwrite : t.writePredicate (.applied (.like likeOp) operands) =
        pure (Session.emptyList likeOp.negated) := by
      rw [writePredicate, Dialect.writeOperator, t.dialect.writeLike_eq hm, hnone]
      rfl
    have hconstant : (Predicate.applied (.like likeOp) operands).constant? =
        some (Predicate.ofNothing likeOp.negated) := by
      simp only [Predicate.constant?, hm, hnone]
      rfl
    rw [hwrite, hconstant]
    exact ⟨Session.succeeds_pure _, rfl⟩
  | noOperand j => cases j <;> exact ⟨Session.succeeds_pure "", rfl⟩

end Target

/-! ### What is left of a condition over lists -/

namespace Condition

variable {t : Target} {c : Condition} {φ : Formula Predicate}

theorem OverLists.ofList (hc : c.OverLists φ) : ∀ p ∈ φ.leaves, p.OfList := by
  induction hc with
  | list h =>
    intro p hp
    obtain rfl := List.mem_singleton.mp hp
    exact h
  | patterns hm hsome =>
    intro p hp
    -- a joined formula has the leaves of its parts, here one pattern each
    rw [Formula.leaves_fold, List.flatMap_map, List.mem_flatMap] at hp
    obtain ⟨v, -, hp⟩ := hp
    obtain rfl := List.mem_singleton.mp hp
    exact .pattern _ _ v
  | junction j hsome h ih =>
    intro p hp
    rw [Formula.leaves_fold, List.flatMap_map, List.mem_flatMap] at hp
    obtain ⟨part, hpart, hp⟩ := hp
    exact ih part hpart p hp
  | negation h ih => exact ih

/-- A junction of conditions is one text made of theirs. -/
theorem writeCondition_junction (j : Joiner) (parts : List (Condition × Formula Predicate)) :
    t.writeCondition ⟨.operator j.operator (parts.map fun p => .condition p.1)⟩ =
      parts.mapM (fun p => t.writeCondition p.1) >>= fun ss =>
        pure (if (ss.filter (!·.isEmpty)).isEmpty then ""
          else "(" ++ Text.join (") " ++ j.text ++ " (") (ss.filter (!·.isEmpty)) ++ ")") := by
  have hjunction : t.writeCondition ⟨.operator j.operator (parts.map fun p => .condition p.1)⟩ =
      Dialect.writeJunction j.operator ((parts.map fun p => Operand.condition p.1).map
        (·.map t.writeCondition t.write)) := by
    rw [← Target.writePredicate_applied]
    cases j <;> rfl
  have hword : j.operator.text = j.text := by cases j <;> rfl
  rw [hjunction, Dialect.writeJunction_eq hword, List.map_map, List.mapM_map]
  rfl

/-- A negation of a condition is a text made of its own. -/
theorem writeCondition_negation (c : Condition) :
    t.writeCondition ⟨.operator .not [.condition c]⟩ =
      t.writeCondition c >>= fun s =>
        pure (if s.isEmpty then s else "NOT" ++ " (" ++ s ++ ")") := by
  rw [← Target.writePredicate_applied]
  exact Dialect.writeNegation_eq (.condition (t.writeCondition c))

/-- Conditions over lists are written from every allocator. -/
theorem OverLists.succeeds (hc : c.OverLists φ) : (t.writeCondition c).Succeeds := by
  induction hc with
  | list h =>
    rw [← Target.writePredicate_applied]
    exact (Target.writePredicate_ofList h).1
  | @patterns likeOp operands m hm hsome =>
    -- there is a pattern, so the list is joined from what is written for each
    rw [← Target.writePredicate_applied, Target.writePredicate, Dialect.writeOperator,
      t.dialect.writeLike_eq hm, if_neg (by simpa using hsome)]
    refine Session.Succeeds.bind ?_ fun _ => Session.succeeds_pure _
    exact Session.Succeeds.mapM fun v _ => t.dialect.succeeds_writeFits likeOp m v
  | junction j hsome h ih =>
    rw [writeCondition_junction]
    exact (Session.Succeeds.mapM ih).bind fun _ => Session.succeeds_pure _
  | negation h ih =>
    rw [writeCondition_negation]
    exact ih.bind fun _ => Session.succeeds_pure _

/-- **Conditions over lists show what they say.** -/
theorem OverLists.writes (hc : c.OverLists φ) : t.Writes Shows (t.writeCondition c) φ := by
  induction hc with
  | list h =>
    rw [← Target.writePredicate_applied]
    exact Target.writes_predicate _
  | patterns hm hsome =>
    rw [← Target.writePredicate_applied]
    exact Target.writes_like hm hsome
  | junction j hsome h ih =>
    rw [writeCondition_junction]
    exact Target.writes_fold ih j fun ss Bs _ hshows => Shows.of_junction j hshows
  | negation h ih =>
    rw [writeCondition_negation]
    exact ih.negated fun s B hshows => hshows.of_negation

end Condition

namespace Leaf

/-- A leaf that was written as its predicate is: as the text of the constant, or as some
text. -/
def Telling (l : Leaf) : Prop :=
  match l.predicate.constant? with
  | some (_, s) => l.text = s
  | none => l.text ≠ ""

theorem worth_of_value {holds : Leaf → Bool} {l : Leaf} {b : Bool}
    (h : l.value holds = some b) : holds l = b := by
  unfold value at h
  split at h
  · cases h
  · exact Option.some.inj h

end Leaf

namespace Target

/-- A leaf that comes from a predicate of a list tells it. -/
theorem telling_of_ofList {t : Target} {l : Leaf} (hp : l.predicate.OfList) {a a' : Allocator}
    (hrun : (t.writePredicate l.predicate).runFrom a = (.ok l.text, a')) : l.Telling := by
  have hwrite := (writePredicate_ofList (t := t) hp).2
  unfold Leaf.Telling
  split at hwrite
  · rw [hwrite, Session.runFrom_pure_eq_ok] at hrun
    exact hrun.1.symm
  · exact hwrite a a' _ hrun

/-- **A condition means what it says** if its text has its truth value, whatever holds. -/
def Keeps (t : Target) (c : Condition) (φ : Formula Predicate) : Prop :=
  ∀ (a a' : Allocator) (s : String) (F : Formula (Predicate × String)),
    (t.writeCondition c).runFrom a = (.ok s, a') →
    (φ.traverse t.writeLeaf).runFrom a = (.ok F, a') →
    ∀ B : Formula Leaf, B.map Leaf.written = F →
      ∃ ts : List (Token Leaf), Token.writeAll Leaf.text ts = s ∧ Token.leaves ts = B.kept ∧
        ∀ holds : Leaf → Bool,
          Token.verdict (Leaf.worth holds) ts = B.truth (some ∘ Leaf.worth holds)

/-- The negation of a vacuous list is false, but it is no text either, which is no
restriction. -/
theorem negated_vacuous :
    let t : Target := { dialect := Dialect.mysql }
    let c : Condition := .not (.notIn "a" [])
    let φ : Formula Predicate := .negated (.leaf (.applied .notIn [.expr "a", .values []]))
    c.OverLists φ ∧ ¬ t.Keeps c φ := by
  intro t c φ
  have hcolumn : Operand.memberColumns (κ := Condition) (θ := Query) .notIn (.expr "a") =
      .ok ["a"] := rfl
  have hlist : (Predicate.applied .notIn [.expr "a", .values []]).OfList :=
    .member (.inr rfl) hcolumn rfl
  refine ⟨.negation (.list hlist), fun hkeeps => ?_⟩
  -- the only leaf is no text, and neither is the whole
  let l : Leaf := ⟨.applied .notIn [.expr "a", .values []], "", 0⟩
  obtain ⟨ts, hwrite, hleaves, hverdict⟩ := hkeeps (.new .empty) (.new .empty) ""
    (.negated (.leaf l.written)) rfl rfl (.negated (.leaf l)) rfl
  have hnil : ts = [] := Token.eq_nil_of_writeAll hwrite hleaves
  -- so the text is true, but the negation is not
  have htrue := hverdict fun _ => true
  rw [hnil] at htrue
  cases htrue

/-- **Vacuous lists are dropped.** Conditions over lists are written from every allocator, and
their leaves are written as they are or, if they are constant, as their constants are. The text
can be cut into tokens whose leaves are those that are any text, in order. Whichever of them
hold, its truth value is that of what is kept of the condition, and it is true if nothing is. If
only units are dropped, and only what is true is dropped as a whole, this is the truth value of
the condition itself. -/
theorem lists_drop (t : Target) {c : Condition} {φ : Formula Predicate} (hc : c.OverLists φ)
    (a : Allocator) :
    ∃ (s : String) (a' : Allocator) (F : Formula (Predicate × String)),
      (t.writeCondition c).runFrom a = (.ok s, a') ∧
      (φ.traverse t.writeLeaf).runFrom a = (.ok F, a') ∧
      ∀ B : Formula Leaf, B.map Leaf.written = F →
        (∀ l ∈ B.leaves, l.Telling) ∧
        ∃ ts : List (Token Leaf), Token.writeAll Leaf.text ts = s ∧ Token.leaves ts = B.kept ∧
          ∀ holds : Leaf → Bool,
            let worth := Leaf.worth holds
            Token.verdict worth ts = some ((B.truth (Leaf.value worth)).getD true) ∧
            (B.DropsUnits worth (Leaf.value worth) →
              (B.truth (Leaf.value worth) = none → B.truth (some ∘ worth) = some true) →
              Token.verdict worth ts = B.truth (some ∘ worth)) := by
  obtain ⟨s, a', hrun⟩ := hc.succeeds a
  obtain ⟨F, htraverse, hF⟩ := hc.writes a a' s hrun
  refine ⟨s, a', F, hrun, htraverse, fun B hB => ⟨?_, ?_⟩⟩
  · intro l hl
    have hmem : l.written ∈ F.leaves := by
      rw [← hB, Formula.leaves_map]
      exact List.mem_map_of_mem hl
    obtain ⟨hp, a₁, a₂, hpredicate⟩ := leaves_traverse htraverse l.written hmem
    exact telling_of_ofList (hc.ofList _ hp) hpredicate
  · obtain ⟨ts, hwrite, hleaves, hverdict⟩ := (hF B hB).exists_verdict
    refine ⟨ts, hwrite, hleaves, fun holds => ⟨hverdict _, fun hunits hwhole => ?_⟩⟩
    rw [hverdict]
    cases htruth : B.truth (Leaf.value (Leaf.worth holds)) with
    | none => exact (hwhole htruth).symm
    | some b =>
      -- what is kept has its own truth value
      exact (Formula.truth_of_dropsUnits (fun _ _ => Leaf.worth_of_value) hunits htruth).symm

/-- A vacuous list under `AND`, and its negation under `OR`: only units are dropped. -/
theorem lists_drop_units :
    let t : Target := { dialect := Dialect.mysql }
    let vacuous : Predicate := .applied .notIn [.expr "a", .values []]
    let empty : Predicate := .applied .isIn [.expr "b", .values []]
    let c : Condition := .and [.notIn "a" [], .or [.not (.notIn "a" []), .not (.isIn "b" [])]]
    let φ : Formula Predicate := .fold .and [.leaf vacuous,
      .fold .or [.negated (.leaf vacuous), .negated (.leaf empty)]]
    c.OverLists φ ∧
      ∃ (s : String) (a' : Allocator) (B : Formula Leaf),
        (t.writeCondition c).runFrom (.new .empty) = (.ok s, a') ∧
        (φ.traverse t.writeLeaf).runFrom (.new .empty) = (.ok (B.map Leaf.written), a') ∧
        ∃ ts : List (Token Leaf), Token.writeAll Leaf.text ts = s ∧ Token.leaves ts = B.kept ∧
          ∀ holds : Leaf → Bool,
            Token.verdict (Leaf.worth holds) ts = B.truth (some ∘ Leaf.worth holds) := by
  intro t vacuous empty c φ
  have hcolumn (op : Operator) (name : String) : Operand.memberColumns (κ := Condition)
      (θ := Query) op (.expr name) = .ok [name] := rfl
  have hvacuous : (Condition.notIn "a" []).OverLists (.leaf vacuous) :=
    .list (.member (.inr rfl) (hcolumn _ _) rfl)
  have hempty : (Condition.isIn "b" []).OverLists (.leaf empty) :=
    .list (.member (.inl rfl) (hcolumn _ _) rfl)
  have hor := @Condition.OverLists.junction .or
    [(_, _), (_, _)] (by simp) (List.forall_mem_cons.mpr
      ⟨hvacuous.negation, List.forall_mem_singleton.mpr hempty.negation⟩)
  have hc : c.OverLists φ := @Condition.OverLists.junction .and
    [(_, _), (_, _)] (by simp) (List.forall_mem_cons.mpr
      ⟨hvacuous, List.forall_mem_singleton.mpr hor⟩)
  let B : Formula Leaf :=
    φ.map fun p => ⟨p, if p.constant? = some (true, "") then "" else "0=1", 0⟩
  obtain ⟨s, a', F, hrun, htraverse, hF⟩ := lists_drop t hc (.new .empty)
  have hB : B.map Leaf.written = F := by
    cases htraverse
    rfl
  obtain ⟨-, ts, hwrite, hleaves, hverdict⟩ := hF B hB
  refine ⟨hc, s, a', B, hrun, hB ▸ htraverse, ts, hwrite, hleaves, fun holds => ?_⟩
  have hv : vacuous.constant? = some (true, "") := rfl
  have he : empty.constant? = some (false, "0=1") := rfl
  refine (hverdict holds).2 ?_ fun hnone => ?_
  · simp [B, φ, Formula.fold, Formula.map, Formula.DropsUnits, Formula.truth, Formula.combine,
      Leaf.value, Leaf.worth, hv, he, Joiner.over]
  · cases hnone

end Target

end SqlCompose

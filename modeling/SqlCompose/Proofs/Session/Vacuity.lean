import SqlCompose.Condition.Build
import SqlCompose.Dialect.MySql
import SqlCompose.Proofs.Query.Nesting
import SqlCompose.Proofs.Session.Agreement
import SqlCompose.Proofs.Session.Outcome
/-!
# Exactly the vacuous conditions are no text

A condition may impose no restriction, and is then written as no text at all: its clause is
dropped, and the junction around it leaves it out. `Condition.vacuous` says which conditions
these are, from their shape alone. As in `Condition.wellFormed`, one layer is judged at a time,
in which every condition inside has been replaced by the verdict on it.

`Compiled.Vacates` is the fact about one rule of the compiler: if there is a fragment, it is no
text exactly if the verdict is `true`. All rules but four always write some text
(`Compiled.vacates_map`); a raw text, a junction, a negation and a list are no text if what
they are made of is none. So the verdict is right for every tree (`Target.vacates_condition`).

The clauses with a condition follow: a keyword is written for a condition that is not vacuous,
and nothing is written or bound for one that is (`Target.KeywordClause`), also behind each table
of the joins (`Target.JoinTexts`).
-/

namespace SqlCompose

variable {κ θ : Type}

/-! ### Which conditions are vacuous -/

namespace Operand

/-- An operand of a junction or a negation without a restriction. -/
def imposesNothing : Operand Bool θ → Bool
  | condition vacuous => vacuous
  | expr sql => sql.isEmpty
  | _ => false

/-- A list of no columns. -/
def namesNothing : Operand κ θ → Bool
  | columns names => names.isEmpty
  | _ => false

/-- A list of no patterns. -/
def listsNoPattern : Operand κ θ → Bool
  | values vs => vs.isEmpty
  | _ => false

end Operand

/-- A vacuous layer of a condition. -/
def ConditionNode.vacuous : ConditionNode Bool θ → Bool
  | raw sql => sql.isEmpty
  | hash pairs => pairs.isEmpty
  | operator .and os | operator .or os => os.all Operand.imposesNothing
  | operator .not [o] => o.imposesNothing
  | operator .notIn [left, right] => left.namesNothing || right.listsNothing
  | operator (.like likeOp) (_ :: right :: _) => likeOp.negated && right.listsNoPattern
  | _ => false

/-- **Vacuous conditions.** What a query inside is like does not matter. -/
def Condition.vacuous (c : Condition) : Bool :=
  Condition.fold ConditionNode.vacuous (fun _ : QueryNode Bool Unit => ()) c

theorem Condition.vacuous_mk (n : ConditionNode Condition Query) :
    Condition.vacuous ⟨n⟩ = (n.map Condition.vacuous fun _ => ()).vacuous :=
  Condition.fold_mk _ _ n

/-! ### Fragments that are some text -/

namespace Fragment

@[simp] theorem isEmpty_append (f g : Fragment) : isEmpty (f ++ g) = (isEmpty f && isEmpty g) :=
  List.all_append

@[simp] theorem isEmpty_text (s : String) : isEmpty (text s) = s.isEmpty := Bool.and_true _

/-- Fragments in a row are some text if the first is. -/
theorem isEmpty_join_cons {f : Fragment} (h : isEmpty f = false) (separator : String)
    (fs : List Fragment) : isEmpty (join separator (f :: fs)) = false := by
  cases fs with
  | nil => exact h
  | cons g rest => simp [join, h]

/-- Only to be in none of no values is no text. -/
theorem isEmpty_listed (d : Dialect) (op : Operator) (column : String) (vs : List Value) :
    isEmpty (d.listed op column vs) = (op == .notIn && vs.isEmpty) := by
  rcases vs with _ | ⟨v, _ | ⟨v', rest⟩⟩
  · cases hop : op == .notIn <;> simp only [Dialect.listed, emptyList, hop] <;> rfl
  · cases hop : op == .notIn <;> simp [Dialect.listed, hop, Text.isEmpty_append]
  · simp [Dialect.listed, Text.isEmpty_append]

end Fragment

namespace Compiled

/-- **A right verdict on emptiness.** What was compiled, if it was, is no text exactly if the
verdict is `true`. -/
def Vacates (c : Compiled) (vacuous : Bool) : Prop :=
  ∀ f, c = .ok f → f.isEmpty = vacuous

theorem vacates_ok {f : Fragment} {vacuous : Bool} (h : f.isEmpty = vacuous) :
    Vacates (.ok f) vacuous := by
  rintro f' ⟨⟩
  exact h

theorem vacates_error (r : Rejection) (vacuous : Bool) : Vacates (.error r) vacuous := by
  rintro f ⟨⟩

/-- What is always some text around a part that may be refused. -/
theorem vacates_map {α : Type} (x : Except Rejection α) {F : α → Fragment}
    (h : ∀ y, (F y).isEmpty = false) : Vacates (x.map F) false := by
  cases x with
  | ok y => exact vacates_ok (h y)
  | error r => exact vacates_error r false

/-- What was read from operands goes before the verdict. -/
theorem vacates_bind {α : Type} (x : Except Error α) {k : α → Compiled} {vacuous : Bool}
    (h : ∀ y, x = .ok y → Vacates (k y) vacuous) : Vacates (lift x >>= k) vacuous := by
  cases x with
  | ok y => exact h y rfl
  | error e => exact vacates_error _ vacuous

/-- The verdicts on parts in a row. -/
theorem map_isEmpty_of_sequence {α : Type} {F : α → Compiled} {p : α → Bool} {xs : List α}
    (h : ∀ x ∈ xs, Vacates (F x) (p x)) {fs : List Fragment}
    (hfs : sequence (xs.map F) = .ok fs) : fs.map Fragment.isEmpty = xs.map p := by
  induction xs generalizing fs with
  | nil =>
    cases hfs
    rfl
  | cons x xs ih =>
    have hx := h x List.mem_cons_self
    rw [List.map_cons] at hfs
    -- an error of the head, or of the rest, is one of the sequence
    cases hhead : F x with
    | error r => rw [hhead] at hfs; cases hfs
    | ok f =>
      cases htail : sequence (xs.map F) with
      | error r => rw [hhead, sequence, htail] at hfs; cases hfs
      | ok rest =>
        rw [hhead, sequence, htail] at hfs
        cases hfs
        rw [List.map_cons, List.map_cons, hx f hhead,
          ih (fun y hy => h y (List.mem_cons_of_mem x hy)) htail]

end Compiled

open Compiled

/-! ### One rule after the other -/

section Rules

variable (d : Dialect) (op : Operator)

/-- The operands of a layer, as they are compiled. -/
abbrev Target.parts (t : Target) (os : List (Operand Condition Query)) : List Part := os.map t.part

/-- An operand with the verdict on the condition in it. -/
abbrev Operand.verdict (o : Operand Condition Query) : Operand Bool Unit :=
  o.map Condition.vacuous fun _ => ()

variable {t : Target}

/-- The operand of a junction or a negation, if the verdict on the condition in it is right. -/
theorem Part.vacates_asCondition (message : String) {o : Operand Condition Query}
    (h : ∀ c, o = .condition c → (t.condition c).Vacates c.vacuous) :
    (Part.asCondition op message (t.part o)).Vacates o.verdict.imposesNothing := by
  cases o with
  | condition c => exact h c rfl
  | expr sql => exact vacates_ok (Fragment.isEmpty_text sql)
  | _ => exact vacates_error _ _

namespace Dialect

/-- A junction is no text if none of its operands is. -/
theorem vacates_junction {os : List (Operand Condition Query)}
    (h : ∀ o ∈ os, ∀ c, o = .condition c → (t.condition c).Vacates c.vacuous) :
    (junction op (t.parts os)).Vacates ((os.map Operand.verdict).all Operand.imposesNothing) := by
  unfold junction
  rw [Target.parts, List.map_map, List.all_map]
  cases hfs : Compiled.sequence
      (os.map (Part.asCondition op "operands must be conditions" ∘ t.part)) with
  | error r => exact vacates_error _ _
  | ok fs =>
    have hempty := map_isEmpty_of_sequence
      (fun o ho => Part.vacates_asCondition op "operands must be conditions" (h o ho)) hfs
    have hall : fs.all Fragment.isEmpty =
        os.all (Operand.imposesNothing ∘ Operand.verdict) := by
      have := congrArg (List.all · id) hempty
      simpa [List.all_map, Function.comp_def] using this
    refine vacates_ok ?_
    rw [← hall]
    dsimp only
    -- there are fragments left exactly if one of them is some text
    split
    · next hleft =>
      rw [List.filter_eq_nil_iff] at hleft
      refine (List.all_eq_true.mpr fun f hf => ?_).symm
      simpa using hleft f hf
    · next fs' hleft =>
      obtain ⟨f, hf⟩ := List.exists_mem_of_ne_nil _ hleft
      obtain ⟨hmem, hsome⟩ := List.mem_filter.mp hf
      have hall : fs.all Fragment.isEmpty = false :=
        List.all_eq_false.mpr ⟨f, hmem, by simpa using hsome⟩
      rw [hall]
      simp

/-- A negation is no text if its operand is none. -/
theorem vacates_negation {os : List (Operand Condition Query)}
    (h : ∀ o ∈ os, ∀ c, o = .condition c → (t.condition c).Vacates c.vacuous) :
    (negation .not (t.parts os)).Vacates
      (ConditionNode.operator .not (os.map Operand.verdict)).vacuous := by
  rcases os with _ | ⟨o, _ | ⟨o', rest⟩⟩
  · exact vacates_error _ _
  · have ho := Part.vacates_asCondition .not "operand must be a condition"
      (h o (List.mem_singleton_self o))
    change Vacates ((Part.asCondition .not "operand must be a condition" (t.part o)).map _) _
    cases hf : Part.asCondition .not "operand must be a condition" (t.part o) with
    | error r => exact vacates_error _ _
    | ok f =>
      refine vacates_ok ?_
      have hverdict : f.isEmpty = o.verdict.imposesNothing := ho f hf
      change _ = o.verdict.imposesNothing
      rw [← hverdict]
      -- no text is left as it is, and any other gets `NOT` in front of it
      dsimp only
      split
      · rfl
      · next hsome =>
        rw [eq_false_of_ne_true hsome]
        simp [Text.isEmpty_append]
  · exact vacates_error _ _

theorem vacates_range (parts : List Part) : (d.range op parts).Vacates false := by
  rcases parts with _ | ⟨p, _ | ⟨p', _ | ⟨p₃, _ | ⟨p₄, rest⟩⟩⟩⟩
  · exact vacates_error _ _
  · exact vacates_error _ _
  · exact vacates_error _ _
  · refine vacates_bind _ fun name _ => vacates_bind _ fun low _ => vacates_bind _ fun high _ => ?_
    exact vacates_ok (by simp)
  · exact vacates_error _ _

/-- A membership is no text if nothing is looked for outside a list, or nothing is listed
there. -/
theorem vacates_memberOf (names : List String) (right : Part) :
    (d.memberOf op names right).Vacates
      (op == .notIn && (names.isEmpty || right.listsNothing)) := by
  unfold memberOf
  cases hempty : names.isEmpty || right.listsNothing with
  | true =>
    -- nothing to look for or nothing listed: the two texts of an empty list
    refine vacates_ok ?_
    cases op == .notIn <;> rfl
  | false =>
    rw [Bool.or_eq_false_iff] at hempty
    rw [Bool.and_false]
    have hquery (q : Compiled) : (d.inQuery op names q).Vacates false :=
      vacates_map q fun f => by simp [Text.isEmpty_append]
    -- one column takes every right-hand side that has values, several take rows and queries
    rcases names with _ | ⟨name, _ | ⟨name', rest⟩⟩
    · exact absurd hempty.1 (by decide)
    · cases right with
      | query q => exact hquery q
      | values vs =>
        refine vacates_ok ?_
        have hvs : vs.isEmpty = false := hempty.2
        rw [Fragment.isEmpty_listed, hvs, Bool.and_false]
      | rows rs =>
        refine vacates_ok ?_
        have hrs : rs.isEmpty = false := hempty.2
        rw [Fragment.isEmpty_listed, List.isEmpty_map, hrs, Bool.and_false]
      | value v => exact vacates_ok ((Fragment.isEmpty_listed ..).trans (Bool.and_false _))
      | expr text => exact vacates_ok ((Fragment.isEmpty_listed ..).trans (Bool.and_false _))
      | condition | columns | escape => exact vacates_error _ _
    · cases right with
      | query q => exact hquery q
      | rows rs => exact vacates_ok (by simp [inRows, Text.isEmpty_append])
      | _ => exact vacates_error _ _

/-- What is looked for, and where, does not depend on what stands inside. -/
theorem vacates_membership (os : List (Operand Condition Query)) :
    (d.membership op (t.parts os)).Vacates
      (op == .notIn && (ConditionNode.operator .notIn (os.map Operand.verdict)).vacuous) := by
  rcases os with _ | ⟨o, _ | ⟨o', _ | ⟨o'', rest⟩⟩⟩
  · exact vacates_error _ _
  · exact vacates_error _ _
  · change Vacates (lift ((t.part o).memberColumns op) >>= fun names =>
      d.memberOf op names (t.part o')) (op == .notIn && (o.verdict.namesNothing ||
        o'.verdict.listsNothing))
    refine vacates_bind _ fun names hnames => ?_
    -- what the verdict asks of the operands is what the compiler asks
    have hright : (t.part o').listsNothing = o'.verdict.listsNothing := by cases o' <;> rfl
    have hleft : names.isEmpty = o.verdict.namesNothing := by
      cases o with
      | expr name => cases hnames; rfl
      | columns names' => cases hnames; rfl
      | _ => cases hnames
    rw [← hright, ← hleft]
    exact d.vacates_memberOf op names (t.part o')
  · exact vacates_error _ _

/-- Patterns are no text if there are none to fail. -/
theorem vacates_fitsAny (likeOp : LikeOp) (m : Operand.Matching) :
    Vacates (.ok (d.fitsAny likeOp m)) (likeOp.negated && m.patterns.isEmpty) := by
  refine vacates_ok ?_
  unfold fitsAny
  cases m.patterns with
  | nil => cases likeOp.negated <;> rfl
  | cons v vs =>
    have hfits : (d.fits likeOp m v).isEmpty = false := by simp [fits]
    rw [List.isEmpty_cons, Bool.and_false]
    exact Fragment.isEmpty_join_cons hfits _ _

theorem vacates_matchingWith (likeOp : LikeOp) (o o' : Operand Condition Query)
    (escape : LikeEscape) :
    Vacates ((lift (Operand.matchingWith op (t.part o) (t.part o') escape)).map (d.fitsAny likeOp))
      (likeOp.negated && o'.verdict.listsNoPattern) := by
  cases hm : Operand.matchingWith op (t.part o) (t.part o') escape with
  | error e => exact vacates_error _ _
  | ok m =>
    have hpatterns : m.patterns.isEmpty = o'.verdict.listsNoPattern := by
      -- three kinds of operand have patterns, and with the others there is no matching
      unfold Operand.matchingWith at hm
      cases hname : (t.part o).asColumn op with
      | error e => rw [hname] at hm; cases hm
      | ok name =>
        rw [hname] at hm
        cases o' with
        | values | value | expr => cases hm; rfl
        | _ => cases hm
    rw [← hpatterns]
    exact d.vacates_fitsAny likeOp m

theorem vacates_like (likeOp : LikeOp) (os : List (Operand Condition Query)) :
    (d.like op likeOp (t.parts os)).Vacates
      (ConditionNode.operator (.like likeOp) (os.map Operand.verdict)).vacuous := by
  unfold like
  rcases os with _ | ⟨o, _ | ⟨o', _ | ⟨o₃, _ | ⟨o₄, rest⟩⟩⟩⟩
  · exact vacates_error _ _
  · exact vacates_error _ _
  · exact d.vacates_matchingWith op likeOp o o' .standard
  · cases o₃ with
    | escape e => exact d.vacates_matchingWith op likeOp o o' e
    | _ => exact vacates_error _ _
  · cases o₃ <;> exact vacates_error _ _

theorem vacates_existence (parts : List Part) : (existence op parts).Vacates false := by
  rcases parts with _ | ⟨p, _ | ⟨p', rest⟩⟩
  · exact vacates_error _ _
  · cases p with
    | query q => exact vacates_map q fun f => by simp [Text.isEmpty_append]
    | _ => exact vacates_error _ _
  · cases p <;> exact vacates_error _ _

theorem vacates_comparison (parts : List Part) : (d.comparison op parts).Vacates false := by
  rcases parts with _ | ⟨p, _ | ⟨p', _ | ⟨p'', rest⟩⟩⟩
  · exact vacates_error _ _
  · exact vacates_error _ _
  · refine vacates_bind _ fun name _ => ?_
    cases p' with
    | query q => exact vacates_map q fun f => by simp [Text.isEmpty_append]
    | value v => cases v <;> exact vacates_ok (by simp [Text.isEmpty_append])
    | expr text => exact vacates_ok (by simp [Text.isEmpty_append])
    | _ => exact vacates_error _ _
  · exact vacates_error _ _

/-- An operator over operands on whose conditions the verdicts are right. -/
theorem vacates_operator {os : List (Operand Condition Query)}
    (h : ∀ o ∈ os, ∀ c, o = .condition c → (t.condition c).Vacates c.vacuous) :
    (d.operator op (t.parts os)).Vacates
      (ConditionNode.operator op (os.map Operand.verdict)).vacuous := by
  cases op with
  | and => exact vacates_junction .and h
  | or => exact vacates_junction .or h
  | not => exact vacates_negation h
  | between => exact d.vacates_range .between _
  | notBetween => exact d.vacates_range .notBetween _
  | isIn => exact d.vacates_membership .isIn os
  | notIn => exact d.vacates_membership .notIn os
  | like likeOp => exact d.vacates_like _ likeOp os
  | hasRow => exact vacates_existence .hasRow _
  | hasNoRow => exact vacates_existence .hasNoRow _
  | compare text => exact d.vacates_comparison (.compare text) _

theorem vacates_pair (column : String) (v : HashValue Compiled) :
    (d.pair column v).Vacates false := by
  cases v with
  | list vs => exact vacates_ok (Fragment.isEmpty_listed ..)
  | query q => exact vacates_map q fun f => by simp [Text.isEmpty_append]
  | value v => cases v <;> exact vacates_ok (by simp [Text.isEmpty_append])

/-- Pairs are no text if there are none. -/
theorem vacates_hash (pairs : List (String × HashValue Compiled)) :
    (d.hash pairs).Vacates pairs.isEmpty := by
  unfold hash
  cases hfs : Compiled.sequence (pairs.map fun p => d.pair p.1 p.2) with
  | error r => exact vacates_error _ _
  | ok fs =>
    have hempty := map_isEmpty_of_sequence (p := fun _ => false)
      (fun p _ => d.vacates_pair p.1 p.2) hfs
    refine vacates_ok ?_
    -- a single pair is written as it is, several are put into parentheses
    rcases pairs with _ | ⟨p, _ | ⟨p', rest⟩⟩
    · cases hfs
      rfl
    · obtain ⟨f, rfl, hf⟩ := List.map_eq_singleton_iff.mp hempty
      exact hf
    · have hlength := length_of_sequence_eq_ok hfs
      rcases fs with _ | ⟨f, _ | ⟨f', more⟩⟩
      · cases hlength
      · cases hlength
      · simp

end Dialect

end Rules

/-! ### Trees -/

namespace Target

/-- **The verdict is right on every condition**, whatever the dialect and the separator. -/
theorem vacates_condition (t : Target) (c : Condition) : (t.condition c).Vacates c.vacuous := by
  refine (layer_induction (P := fun c => (t.condition c).Vacates c.vacuous)
    (Q := fun _ => True) ?_ fun _ _ _ => trivial).1 c
  intro n ih _
  have hlayer : t.condition ⟨n⟩ = t.dialect.conditionNode (n.map t.condition t.query) :=
    Condition.fold_mk _ _ n
  rw [hlayer, Condition.vacuous_mk]
  -- only operators have conditions inside, so `ih` is needed at one layer
  cases n with
  | raw sql => exact vacates_ok (Fragment.isEmpty_text sql)
  | hash pairs =>
    have hpairs := t.dialect.vacates_hash (pairs.map fun p => (p.1, p.2.map t.query))
    rw [List.isEmpty_map] at hpairs
    exact (congrArg (Vacates _) List.isEmpty_map).mpr hpairs
  | operator op os =>
    refine t.dialect.vacates_operator op ?_
    rintro o ho c rfl
    exact ih c (.condition ho)

variable {t : Target} {c : Condition} {a a' : Allocator} {s : String}

/-- A condition is written as no text exactly if it is vacuous. -/
theorem eq_empty_iff_vacuous (h : (t.writeCondition c).runFrom a = (.ok s, a')) :
    s = "" ↔ c.vacuous = true := by
  rw [writeCondition_eq_session] at h
  have hvacates := t.vacates_condition c
  cases hc : t.condition c with
  | error r => rw [hc] at h; cases h
  | ok f =>
    rw [hc] at h
    cases h
    rw [← hvacates f hc, ← Fragment.isEmpty_fill f a, String.isEmpty_iff]

/-- A vacuous condition binds nothing. -/
theorem eq_of_vacuous (h : (t.writeCondition c).runFrom a = (.ok s, a'))
    (hc : c.vacuous = true) : a' = a := by
  rw [writeCondition_eq_session] at h
  have hvacates := t.vacates_condition c
  cases hf : t.condition c with
  | error r => rw [hf] at h; cases h
  | ok f =>
    rw [hf, Compiled.session_ok, Fragment.session_of_isEmpty ((hvacates f hf).trans hc)] at h
    cases h
    rfl

/-! ### Clauses with a condition -/

/-- **What a clause with a keyword comes to**, between two allocators: a condition that is not
vacuous is written behind the keyword, and nothing is written for any other. -/
inductive KeywordClause (t : Target) (keyword : String) :
    Option Condition → Allocator → String → Allocator → Prop
  | absent {a : Allocator} : KeywordClause t keyword none a "" a
  | vacuous {c : Condition} {a : Allocator} (hc : c.vacuous = true)
      (hrun : (t.writeCondition c).runFrom a = (.ok "", a)) :
      KeywordClause t keyword (some c) a "" a
  | restricting {c : Condition} {a a' : Allocator} {s : String} (hc : c.vacuous = false)
      (hrun : (t.writeCondition c).runFrom a = (.ok s, a')) (hs : s ≠ "") :
      KeywordClause t keyword (some c) a (keyword ++ s) a'

/-- **What joins come to**, between two allocators: the text of each is its type, its table, and
the clause of its condition. -/
inductive JoinTexts (t : Target) :
    List (Join Condition Query) → Allocator → List String → Allocator → Prop
  | nil {a : Allocator} : JoinTexts t [] a [] a
  | cons {j : Join Condition Query} {js : List (Join Condition Query)} {table : TableSpec Query}
      {a a₁ a₂ a' : Allocator} {target on : String} {texts : List String}
      (htable : j.table = some table)
      (hrun : (t.dialect.writeTableEntry (table.map t.write)).runFrom a = (.ok target, a₁))
      (hon : t.KeywordClause " ON " j.on a₁ on a₂) (hrest : JoinTexts t js a₂ texts a') :
      JoinTexts t (j :: js) a ((Text.trim j.joinType ++ " " ++ target ++ on) :: texts) a'

/-- One clause. -/
theorem keywordClause_of_run {keyword : String} {condition : Option Condition}
    (h : (Dialect.writeKeyword keyword (condition.map t.writeCondition)).runFrom a =
      (.ok s, a')) : t.KeywordClause keyword condition a s a' := by
  cases condition with
  | none =>
    obtain ⟨rfl, rfl⟩ := Session.runFrom_pure_eq_ok.mp h
    exact .absent
  | some c =>
    obtain ⟨sql, a₁, hrun, hrest⟩ := Session.runFrom_bind_eq_ok.mp h
    have hempty := eq_empty_iff_vacuous hrun
    -- the clause looks at the text, and `hempty` tells the verdict from it
    cases hc : c.vacuous with
    | true =>
      obtain rfl := hempty.mpr hc
      obtain rfl := eq_of_vacuous hrun hc
      obtain ⟨rfl, rfl⟩ := Session.runFrom_pure_eq_ok.mp hrest
      exact .vacuous hc hrun
    | false =>
      have hsql : sql ≠ "" := fun hsql => by
        rw [hempty.mp hsql] at hc
        cases hc
      rw [if_neg (by rwa [String.isEmpty_iff])] at hrest
      obtain ⟨rfl, rfl⟩ := Session.runFrom_pure_eq_ok.mp hrest
      exact .restricting hc hrun hsql

/-- All joins, one after the other. -/
theorem joinTexts_of_run {joins : List (Join Condition Query)} {texts : List String}
    (h : ((joins.map (·.map t.writeCondition t.write)).mapM t.dialect.writeJoinEntry).runFrom a =
      (.ok texts, a')) : t.JoinTexts joins a texts a' := by
  induction joins generalizing a texts with
  | nil =>
    obtain ⟨rfl, rfl⟩ := Session.runFrom_pure_eq_ok.mp h
    exact .nil
  | cons j js ih =>
    rw [List.map_cons, List.mapM_cons] at h
    obtain ⟨text, a₂, hentry, h⟩ := Session.runFrom_bind_eq_ok.mp h
    obtain ⟨rest, a₃, hrest, h⟩ := Session.runFrom_bind_eq_ok.mp h
    obtain ⟨rfl, rfl⟩ := Session.runFrom_pure_eq_ok.mp h
    obtain ⟨joinType, _ | table, on⟩ := j
    · -- a join without a table is not written
      cases hentry
    · unfold Dialect.writeJoinEntry at hentry
      dsimp only [Join.map, Option.map_some] at hentry
      split at hentry
      · cases hentry
      · obtain ⟨target, a₁, htable, hentry⟩ := Session.runFrom_bind_eq_ok.mp hentry
        obtain ⟨on, a₂, hon, hentry⟩ := Session.runFrom_bind_eq_ok.mp hentry
        obtain ⟨rfl, rfl⟩ := Session.runFrom_pure_eq_ok.mp hentry
        exact .cons rfl htable (keywordClause_of_run hon) (ih hrest)

/-- **Exactly the vacuous conditions are no text**, whatever the dialect, the separator and the
allocator, and they leave the allocator as it was. A clause with a condition, for rows, groups or
joined tables, has its keyword exactly if the condition is not vacuous. -/
theorem dropped_iff_vacuous (t : Target) :
    (∀ (c : Condition) (a a' : Allocator) (s : String),
      (t.writeCondition c).runFrom a = (.ok s, a') →
        (s = "" ↔ c.vacuous = true) ∧ (s = "" → a' = a)) ∧
    (∀ keyword ∈ ["WHERE ", "HAVING "], ∀ (condition : Option Condition) (a a' : Allocator)
      (s : String), (Dialect.writeKeyword keyword (condition.map t.writeCondition)).runFrom a =
        (.ok s, a') → t.KeywordClause keyword condition a s a') ∧
    ∀ (joins : List (Join Condition Query)) (a a' : Allocator) (s : String),
      (t.writeJoinClause (joins.map (·.map t.writeCondition t.write))).runFrom a = (.ok s, a') →
        ∃ texts, s = Text.join t.separator texts ∧ t.JoinTexts joins a texts a' := by
  refine ⟨fun c a a' s h => ?_, fun _ _ _ _ _ _ h => keywordClause_of_run h,
    fun joins a a' s h => ?_⟩
  · have hempty := eq_empty_iff_vacuous h
    exact ⟨hempty, fun hs => eq_of_vacuous h (hempty.mp hs)⟩
  · obtain ⟨texts, a₁, hrun, hrest⟩ := Session.runFrom_bind_eq_ok.mp h
    obtain ⟨rfl, rfl⟩ := Session.runFrom_pure_eq_ok.mp hrest
    exact ⟨texts, rfl, joinTexts_of_run hrun⟩

/-- A join on nothing but vacuous conditions, and a filter with a restriction among them. -/
theorem dropped_iff_vacuous_nested :
    let t : Target := { dialect := Dialect.mysql }
    let c : Condition := .and [.raw "", .not (.notIn "a" []), .or [.notLike "b" [], .hash []]]
    let c' : Condition := .or [c, .not (.isIn "d" [])]
    let joins : List (Join Condition Query) := [⟨"LEFT JOIN", some (.bare "u"), some c⟩]
    (c.vacuous = true ∧ c'.vacuous = false) ∧
      (∃ s a', (t.writeCondition c).runFrom (.new .empty) = (.ok s, a') ∧
        (s = "" ↔ c.vacuous = true)) ∧
      (∃ a', t.KeywordClause "WHERE " (some c') (.new .empty) "WHERE (NOT (0=1))" a') ∧
      ∃ a' texts, "LEFT JOIN \x60u\x60" = Text.join " " texts ∧
        t.JoinTexts joins (.new .empty) texts a' := by
  intro t c c' joins
  obtain ⟨hempty, hclause, hjoins⟩ := dropped_iff_vacuous t
  refine ⟨⟨by decide, by decide⟩, ?_, ?_, ?_⟩
  · obtain ⟨a', hrun⟩ := Session.exists_runFrom_eq_ok (a := .new .empty) (x := t.writeCondition c)
      (z := "") (by decide +kernel)
    exact ⟨"", a', hrun, (hempty c _ _ "" hrun).1⟩
  · obtain ⟨a', hrun⟩ := Session.exists_runFrom_eq_ok (a := .new .empty)
      (x := Dialect.writeKeyword "WHERE " ((some c').map t.writeCondition))
      (z := "WHERE (NOT (0=1))") (by decide +kernel)
    exact ⟨a', hclause "WHERE " List.mem_cons_self (some c') _ _ _ hrun⟩
  · obtain ⟨a', hrun⟩ := Session.exists_runFrom_eq_ok (a := .new .empty)
      (x := t.writeJoinClause (joins.map (·.map t.writeCondition t.write)))
      (z := "LEFT JOIN \x60u\x60") (by decide +kernel)
    obtain ⟨texts, htexts, hwritten⟩ := hjoins joins _ _ _ hrun
    exact ⟨a', texts, htexts, hwritten⟩

end Target

end SqlCompose

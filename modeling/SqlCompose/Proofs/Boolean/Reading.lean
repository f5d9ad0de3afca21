import Mathlib.Data.List.Forall2
import SqlCompose.Proofs.Boolean.Formula
import SqlCompose.Text.Basic
/-!
# Reading conditions by precedence

SQL reads a condition with parentheses first, then `NOT`, then `AND`, then `OR`. `read`
does so on tokens, with leaves as single tokens, by going over them once with a stack of
frames, one for each parenthesis that is open. It gives a truth value for well-formed
input only: two operands without a joiner, a joiner without an operand and a parenthesis
without its partner are refused.

Tokens that can stand as an operand anywhere are a factor (`IsFactor`), and tokens that
can fill a parenthesis or the whole text are whole (`IsWhole`). Factors under one joiner
are whole (`isWhole_joined`), and what is whole becomes a factor between parentheses
(`IsWhole.parenthesized`).
-/

namespace SqlCompose

/-- A token of a condition. -/
inductive Token (α : Type)
  | leaf (a : α)
  | opening
  | closing
  | joiner (j : Joiner)
  | negation

namespace Token

variable {α : Type} (text : α → String) (holds : α → Bool)

/-- How a token is written, if leaves are written like this. -/
def write : Token α → String
  | leaf a => text a
  | opening => "("
  | closing => ")"
  | joiner j => " " ++ j.text ++ " "
  | negation => "NOT "

/-- How tokens are written one after the other. -/
def writeAll : List (Token α) → String
  | [] => ""
  | t :: ts => t.write text ++ writeAll ts

/-- The leaves among some tokens. -/
def leaves (ts : List (Token α)) : List α :=
  ts.filterMap fun
    | leaf a => some a
    | _ => none

/-! ### Reading -/

/-- What is known behind some tokens of a parenthesis that is still open. -/
structure Frame where
  /-- Whether one of the terms in front of the last `OR` is true. -/
  any : Bool := false
  /-- Whether all factors behind the last `OR` are true. -/
  all : Bool := true
  /-- Whether the number of `NOT`s in front of the next factor is odd. -/
  negated : Bool := false
  /-- Whether a factor stands last, so that no other may follow. -/
  complete : Bool := false

/-- The truth value of all that stands in a frame. -/
def Frame.value (f : Frame) : Bool := f.any || f.all

/-- The frame behind a factor. -/
def Frame.operand (f : Frame) (b : Bool) : Frame :=
  { f with all := f.all && (b != f.negated), negated := false, complete := true }

/-- The frame behind a joiner: an `OR` ends the term, an `AND` does not. -/
def Frame.next (f : Frame) : Joiner → Frame
  | .and => { f with complete := false }
  | .or => { f with any := f.any || f.all, all := true, complete := false }

/-- The truth value of tokens in the innermost frame and the frames around it. -/
def readFrom (f : Frame) (outer : List Frame) : List (Token α) → Option Bool
  | [] =>
    match outer with
    | [] => if f.complete then some f.value else none
    | _ :: _ => none
  | leaf a :: ts => if f.complete then none else readFrom (f.operand (holds a)) outer ts
  | opening :: ts => if f.complete then none else readFrom {} (f :: outer) ts
  | closing :: ts =>
    match outer with
    | [] => none
    | g :: outer => if f.complete then readFrom (g.operand f.value) outer ts else none
  | joiner j :: ts => if f.complete then readFrom (f.next j) outer ts else none
  | negation :: ts =>
    if f.complete then none else readFrom { f with negated := !f.negated } outer ts

/-- The truth value of tokens, if the leaves have these. -/
def read (ts : List (Token α)) : Option Bool := readFrom holds {} [] ts

/-- The truth value of tokens where a restriction may stand. No token at all is no
restriction. -/
def verdict : List (Token α) → Option Bool
  | [] => some true
  | ts => read holds ts

/-! ### Factors and whole texts -/

variable {text holds}

/-- **A factor** has its truth value wherever an operand may stand. -/
def IsFactor (holds : α → Bool) (ts : List (Token α)) (b : Bool) : Prop :=
  ∀ (f : Frame) (outer : List Frame) (rest : List (Token α)), f.complete = false →
    readFrom holds f outer (ts ++ rest) = readFrom holds (f.operand b) outer rest

/-- **A whole text** has its truth value within parentheses or alone. -/
def IsWhole (holds : α → Bool) (ts : List (Token α)) (b : Bool) : Prop :=
  ∃ g : Frame, g.complete = true ∧ g.value = b ∧
    ∀ (outer : List Frame) (rest : List (Token α)),
      readFrom holds {} outer (ts ++ rest) = readFrom holds g outer rest

theorem isFactor_leaf (a : α) : IsFactor holds [leaf a] (holds a) := by
  intro f outer rest hf
  rw [List.singleton_append, readFrom, hf]
  rfl

theorem IsFactor.isWhole {ts : List (Token α)} {b : Bool} (h : IsFactor holds ts b) :
    IsWhole holds ts b := by
  refine ⟨Frame.operand {} b, rfl, ?_, fun outer rest => h {} outer rest rfl⟩
  simp [Frame.operand, Frame.value]

/-- What is whole is a factor once it stands in parentheses. -/
theorem IsWhole.parenthesized {ts : List (Token α)} {b : Bool} (h : IsWhole holds ts b) :
    IsFactor holds (opening :: ts ++ [closing]) b := by
  obtain ⟨g, hcomplete, hvalue, hread⟩ := h
  intro f outer rest hf
  calc readFrom holds f outer (opening :: ts ++ [closing] ++ rest)
      = readFrom holds {} (f :: outer) (ts ++ closing :: rest) := by
        rw [List.append_assoc, List.cons_append, readFrom, hf]
        rfl
    _ = readFrom holds g (f :: outer) (closing :: rest) := hread _ _
    _ = readFrom holds (f.operand b) outer rest := by
        rw [readFrom, hcomplete, hvalue]
        rfl

/-- A `NOT` in front of a factor belongs to this factor. -/
theorem IsFactor.negation {ts : List (Token α)} {b : Bool} (h : IsFactor holds ts b) :
    IsFactor holds (negation :: ts) (!b) := by
  intro f outer rest hf
  -- one more `NOT` in front of `b` is as good as none in front of `!b`
  have hoperand : Frame.operand { f with negated := !f.negated } b = f.operand (!b) := by
    cases b <;> simp [Frame.operand]
  rw [List.cons_append, readFrom, if_neg (ne_true_of_eq_false hf), ← hoperand]
  exact h { f with negated := !f.negated } outer rest hf

theorem IsWhole.read_eq {ts : List (Token α)} {b : Bool} (h : IsWhole holds ts b) :
    read holds ts = some b := by
  obtain ⟨g, hcomplete, hvalue, hread⟩ := h
  have := hread [] []
  rw [List.append_nil] at this
  rw [read, this, readFrom, hcomplete, hvalue]
  rfl

/-- What is whole is some token, so it is read where a restriction may stand. -/
theorem IsWhole.verdict_eq {ts : List (Token α)} {b : Bool} (h : IsWhole holds ts b) :
    verdict holds ts = some b := by
  cases ts with
  | nil =>
    have hread := h.read_eq
    cases hread
  | cons t ts => exact h.read_eq

/-! ### Factors under one joiner -/

/-- Tokens with a joiner between neighbours. -/
def joined (j : Joiner) : List (List (Token α)) → List (Token α)
  | [] => []
  | [ts] => ts
  | ts :: rest => ts ++ joiner j :: joined j rest

theorem writeAll_append (ts us : List (Token α)) :
    writeAll text (ts ++ us) = writeAll text ts ++ writeAll text us := by
  induction ts with
  | nil => rw [List.nil_append, writeAll, String.empty_append]
  | cons t ts ih => rw [List.cons_append, writeAll, ih, writeAll, String.append_assoc]

/-- No text without a leaf is made of no token. -/
theorem eq_nil_of_writeAll {ts : List (Token α)}
    (hwrite : writeAll text ts = "") (hleaves : leaves ts = []) : ts = [] := by
  cases ts with
  | nil => rfl
  | cons x ts =>
    -- every token but a leaf is some text
    rw [writeAll, String.append_eq_empty_iff] at hwrite
    cases x with
    | leaf a => cases hleaves
    | joiner j =>
      have hblank := hwrite.1
      rw [write, String.append_eq_empty_iff] at hblank
      exact absurd hblank.2 (by decide)
    | opening | closing | negation => exact absurd hwrite.1 (by simp [write])

theorem writeAll_joined (j : Joiner) (tss : List (List (Token α))) :
    writeAll text (joined j tss) = Text.join (" " ++ j.text ++ " ") (tss.map (writeAll text)) := by
  induction tss with
  | nil => rfl
  | cons ts rest ih =>
    cases rest with
    | nil => rfl
    | cons us rest =>
      change writeAll text (ts ++ joiner j :: joined j (us :: rest)) = _
      rw [writeAll_append, writeAll, ih, ← String.append_assoc]
      rfl

theorem leaves_joined (j : Joiner) (tss : List (List (Token α))) :
    leaves (joined j tss) = tss.flatMap leaves := by
  induction tss with
  | nil => rfl
  | cons ts rest ih =>
    cases rest with
    | nil => rw [joined, List.flatMap_singleton]
    | cons us rest =>
      change leaves (ts ++ joiner j :: joined j (us :: rest)) = _
      rw [leaves, List.filterMap_append]
      exact congrArg (leaves ts ++ ·) ih

/-- A frame in which factors under a joiner have had this truth value so far. -/
def Frame.start (j : Joiner) (acc : Bool) : Frame :=
  match j with
  | .and => { all := acc }
  | .or => { any := acc }

theorem Frame.value_operand_start (j : Joiner) (acc b : Bool) :
    ((start j acc).operand b).value = j.apply acc b := by
  cases j <;> simp [start, operand, value, Joiner.apply]

theorem Frame.next_operand_start (j : Joiner) (acc b : Bool) :
    ((start j acc).operand b).next j = start j (j.apply acc b) := by
  cases j <;> simp [start, operand, next, Joiner.apply]

theorem Frame.complete_start (j : Joiner) (acc : Bool) : (start j acc).complete = false := by
  cases j <;> rfl

/-- Factors under a joiner are taken in one after the other. -/
theorem exists_readFrom_joined (j : Joiner) {tss : List (List (Token α))} {bs : List Bool}
    (h : List.Forall₂ (IsFactor holds) tss bs) (hne : tss ≠ []) (acc : Bool) :
    ∃ g : Frame, g.complete = true ∧ g.value = bs.foldl j.apply acc ∧
      ∀ (outer : List Frame) (rest : List (Token α)),
        readFrom holds (.start j acc) outer (joined j tss ++ rest) =
          readFrom holds g outer rest := by
  induction h generalizing acc with
  | nil => exact absurd rfl hne
  | @cons ts b rest bs hfactor hrest ih =>
    have hstart := Frame.complete_start j acc
    cases hrest with
    | nil =>
      exact ⟨(Frame.start j acc).operand b, rfl, Frame.value_operand_start j acc b,
        fun outer more => hfactor _ outer more hstart⟩
    | @cons us b' rest bs hfactor' hrest =>
      obtain ⟨g, hcomplete, hvalue, hread⟩ := ih (List.cons_ne_nil _ _) (j.apply acc b)
      -- the first factor and its joiner lead to the frame in which the others start
      refine ⟨g, hcomplete, hvalue, fun outer more => ?_⟩
      change readFrom holds _ outer (ts ++ joiner j :: joined j (us :: rest) ++ more) = _
      rw [List.append_assoc, hfactor _ _ _ hstart, List.cons_append, readFrom, ← hread,
        ← Frame.next_operand_start]
      rfl

/-- **Factors under one joiner** are whole, and the joiner is over their truth values. -/
theorem isWhole_joined (j : Joiner) {tss : List (List (Token α))} {bs : List Bool}
    (h : List.Forall₂ (IsFactor holds) tss bs) (hne : tss ≠ []) :
    IsWhole holds (joined j tss) (j.over bs) := by
  cases j with
  | and =>
    -- a conjunction starts true
    obtain ⟨g, hcomplete, hvalue, hread⟩ := exists_readFrom_joined .and h hne true
    rw [Joiner.foldl_apply] at hvalue
    exact ⟨g, hcomplete, hvalue, hread⟩
  | or =>
    -- a disjunction starts false
    obtain ⟨g, hcomplete, hvalue, hread⟩ := exists_readFrom_joined .or h hne false
    rw [Joiner.foldl_apply] at hvalue
    exact ⟨g, hcomplete, hvalue, hread⟩

end Token

end SqlCompose

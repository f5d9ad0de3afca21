import SqlCompose.Proofs.Boolean.Predicate
import SqlCompose.Proofs.Boolean.Reading
import SqlCompose.Proofs.Text.Split
/-!
# Texts that show formulas

A text shows a formula over what was written (`Shows`) if it is empty where nothing is
left of the formula, and can otherwise be cut into tokens that have its truth value,
whichever of its leaves hold.
Junctions, negations, hash conditions and pattern operators put texts together in ways of
their own (`Shows.of_junction`, `Shows.of_negation`, `Shows.of_hash`, `Shows.of_leaves`):
each of them takes texts that show formulas to one that shows the formula over these.
-/

namespace SqlCompose

/-- **A text that shows a formula**: no text if nothing is left of the formula, and otherwise
tokens of its leaves that are whole and have its truth value, whichever leaves hold. -/
def Shows (s : String) (B : Formula Leaf) : Prop :=
  (s = "" ∧ (∀ holds, B.truth (Leaf.value holds) = none) ∧ B.kept = []) ∨
    s ≠ "" ∧ ∃ ts, Token.writeAll Leaf.text ts = s ∧ Token.leaves ts = B.kept ∧
      ∀ holds, ∃ b, B.truth (Leaf.value holds) = some b ∧ Token.IsWhole holds ts b

namespace Shows

/-- A leaf that is any text. -/
def OfLeaf (s : String) (B : Formula Leaf) : Prop :=
  ∃ l : Leaf, B = .leaf l ∧ l.text = s ∧ s ≠ ""

theorem of_leaf (l : Leaf) : Shows l.text (.leaf l) := by
  by_cases htext : l.text = ""
  · refine Or.inl ⟨htext, fun holds => ?_, ?_⟩
    · simp [Formula.truth, Leaf.value, htext]
    · simp [Formula.kept, Formula.leaves, htext]
  · refine Or.inr ⟨htext, [.leaf l], String.append_empty, ?_, fun holds => ?_⟩
    · simp [Token.leaves, Formula.kept, Formula.leaves, htext]
    · refine ⟨holds l, ?_, (Token.isFactor_leaf l).isWhole⟩
      simp [Formula.truth, Leaf.value, htext]

theorem kept_fold (j : Joiner) (Bs : List (Formula Leaf)) :
    (Formula.fold j Bs).kept = Bs.flatMap Formula.kept := by
  rw [Formula.kept, Formula.leaves_fold, List.filter_flatMap]
  rfl

/-- **Factors under a joiner** show the formulas that have a truth value. -/
theorem of_factors {s : String} {j : Joiner} {Bs : List (Formula Leaf)}
    {tss : List (List (Token Leaf))}
    (hfactors : ∀ holds, List.Forall₂ (Token.IsFactor holds) tss
      (Bs.filterMap (·.truth (Leaf.value holds))))
    (hleaves : tss.flatMap Token.leaves = Bs.flatMap Formula.kept) (hne : tss ≠ []) (hs : s ≠ "")
    (htext : Text.join (" " ++ j.text ++ " ") (tss.map (Token.writeAll Leaf.text)) = s) :
    Shows s (.fold j Bs) := by
  refine Or.inr ⟨hs, Token.joined j tss, ?_, ?_, fun holds => ?_⟩
  · rw [Token.writeAll_joined, htext]
  · rw [Token.leaves_joined, hleaves, kept_fold]
  · refine ⟨_, ?_, Token.isWhole_joined j (hfactors holds) hne⟩
    rw [Formula.truth_fold]
    -- there is a factor, so some formula has a truth value
    cases hvalues : Bs.filterMap (·.truth (Leaf.value holds)) with
    | nil =>
      have hnil := hfactors holds
      rw [hvalues, List.forall₂_nil_right_iff] at hnil
      exact absurd hnil hne
    | cons b bs => rfl

/-- Nothing left of any formula. -/
theorem of_nothing_left {j : Joiner} {Bs : List (Formula Leaf)}
    (hvalues : ∀ holds, Bs.filterMap (·.truth (Leaf.value holds)) = [])
    (hleaves : Bs.flatMap Formula.kept = []) : Shows "" (.fold j Bs) := by
  refine Or.inl ⟨rfl, fun holds => ?_, ?_⟩
  · rw [Formula.truth_fold, hvalues]
  · rw [kept_fold, hleaves]

/-! ### Texts in parentheses -/

/-- The texts that are any, in parentheses, are factors. -/
theorem exists_factors {ss : List String} {Bs : List (Formula Leaf)}
    (h : List.Forall₂ Shows ss Bs) :
    ∃ tss : List (List (Token Leaf)),
      (∀ holds, List.Forall₂ (Token.IsFactor holds) tss
        (Bs.filterMap (·.truth (Leaf.value holds)))) ∧
      tss.flatMap Token.leaves = Bs.flatMap Formula.kept ∧
      tss.map (Token.writeAll Leaf.text) =
        (ss.filter (!·.isEmpty)).map fun s => "(" ++ s ++ ")" := by
  induction h with
  | nil => exact ⟨[], fun _ => .nil, rfl, rfl⟩
  | @cons s B ss Bs hshows _ ih =>
    obtain ⟨tss, hfactors, hleaves, htexts⟩ := ih
    rcases hshows with ⟨rfl, htruth, hkept⟩ | ⟨hs, ts, hwrite, htokens, hwhole⟩
    · -- an absent operand leaves no token behind
      refine ⟨tss, fun holds => ?_, ?_, ?_⟩
      · rw [List.filterMap_cons_none (htruth holds)]
        exact hfactors holds
      · rw [List.flatMap_cons, hkept, List.nil_append, hleaves]
      · rw [htexts]
        rfl
    · -- what is whole becomes a factor in its parentheses
      refine ⟨(.opening :: ts ++ [.closing]) :: tss, fun holds => ?_, ?_, ?_⟩
      · obtain ⟨b, htruth, hb⟩ := hwhole holds
        rw [List.filterMap_cons_some htruth]
        exact .cons hb.parenthesized (hfactors holds)
      · have hinner : Token.leaves (.opening :: ts ++ [.closing]) = Token.leaves ts := by
          simp [Token.leaves]
        rw [List.flatMap_cons, hinner, htokens, hleaves, List.flatMap_cons]
      · have hkeep : (s :: ss).filter (!·.isEmpty) = s :: ss.filter (!·.isEmpty) := by
          rw [List.filter_cons_of_pos]
          simpa using hs
        have hparens : Token.writeAll Leaf.text (.opening :: ts ++ [.closing]) =
            "(" ++ s ++ ")" := by
          rw [List.cons_append, Token.writeAll, Token.writeAll_append, hwrite, String.append_assoc]
          rfl
        rw [hkeep, List.map_cons, List.map_cons, hparens, htexts]

/-- **A junction** of texts, those that are none left out, shows the formulas under its
joiner. -/
theorem of_junction (j : Joiner) {ss : List String} {Bs : List (Formula Leaf)}
    (h : List.Forall₂ Shows ss Bs) :
    Shows (if (ss.filter (!·.isEmpty)).isEmpty then ""
      else "(" ++ Text.join (") " ++ j.text ++ " (") (ss.filter (!·.isEmpty)) ++ ")")
      (.fold j Bs) := by
  obtain ⟨tss, hfactors, hleaves, htexts⟩ := exists_factors h
  cases hkept : ss.filter (!·.isEmpty) with
  | nil =>
    rw [hkept, List.map_nil, List.map_eq_nil_iff] at htexts
    subst htexts
    exact of_nothing_left (fun holds => List.forall₂_nil_left_iff.mp (hfactors holds)) hleaves.symm
  | cons s rest =>
    rw [hkept] at htexts
    -- the operands that are left are factors under the joiner
    refine of_factors hfactors hleaves ?_ ?_ ?_
    · rintro rfl
      cases htexts
    · intro hempty
      have := congrArg String.toList hempty
      simp at this
    · rw [htexts]
      exact (Text.join_parenthesized j.text s rest).symm

/-- **A negation** of a text, if it is any, shows the negated formula. -/
theorem of_negation {s : String} {B : Formula Leaf} (h : Shows s B) :
    Shows (if s.isEmpty then s else "NOT" ++ " (" ++ s ++ ")") (.negated B) := by
  rcases h with ⟨rfl, htruth, hkept⟩ | ⟨hs, ts, hwrite, htokens, hwhole⟩
  · refine Or.inl ⟨rfl, fun holds => ?_, hkept⟩
    rw [Formula.truth, htruth]
    rfl
  · have hempty : s.isEmpty = false := by simpa using hs
    rw [hempty]
    -- `NOT` in front of a parenthesis, which is a factor
    refine Or.inr ⟨?_, .negation :: (.opening :: ts ++ [.closing]), ?_, ?_, fun holds => ?_⟩
    · intro hnone
      have := congrArg String.toList hnone
      simp at this
    · rw [List.cons_append, Token.writeAll, Token.writeAll, Token.writeAll_append, hwrite,
        ← String.append_assoc, ← String.append_assoc]
      rfl
    · rw [← htokens.trans (show B.kept = (Formula.negated B).kept from rfl)]
      simp [Token.leaves]
    · obtain ⟨b, htruth, hb⟩ := hwhole holds
      refine ⟨!b, ?_, hb.parenthesized.negation.isWhole⟩
      rw [Formula.truth, htruth]
      rfl

/-! ### Leaves under a joiner -/

theorem OfLeaf.shows {s : String} {B : Formula Leaf} (h : OfLeaf s B) : Shows s B := by
  obtain ⟨l, rfl, rfl, -⟩ := h
  exact of_leaf l

/-- A formula that stands alone under a joiner. -/
theorem of_single {s : String} {B : Formula Leaf} (h : Shows s B) (j : Joiner) :
    Shows s (.fold j [B]) := by
  have htruth : ∀ holds,
      (Formula.fold j [B]).truth (Leaf.value holds) = B.truth (Leaf.value holds) := by
    intro holds
    change Formula.combine j (B.truth (Leaf.value holds)) none = _
    cases B.truth (Leaf.value holds) <;> rfl
  have hkept : (Formula.fold j [B]).kept = B.kept := by
    rw [kept_fold, List.flatMap_singleton]
  simpa only [Shows, htruth, hkept] using h

theorem join_ne_empty {sep s : String} (hs : s ≠ "") (ss : List String) :
    Text.join sep (s :: ss) ≠ "" := by
  cases ss with
  | nil => exact hs
  | cons s' ss =>
    intro hempty
    have hjoin : Text.join sep (s :: s' :: ss) = s ++ sep ++ Text.join sep (s' :: ss) := rfl
    rw [hjoin, String.append_eq_empty_iff, String.append_eq_empty_iff] at hempty
    exact hs hempty.1.1

/-- The leaves of formulas that are no more than leaves. -/
theorem exists_leaves {ss : List String} {Bs : List (Formula Leaf)}
    (h : List.Forall₂ OfLeaf ss Bs) :
    ∃ ls : List Leaf, Bs = ls.map .leaf ∧ ls.map Leaf.text = ss ∧ ∀ l ∈ ls, l.text ≠ "" := by
  induction h with
  | nil => exact ⟨[], rfl, rfl, fun l hl => absurd hl List.not_mem_nil⟩
  | @cons s B ss Bs hleaf _ ih =>
    obtain ⟨l, rfl, rfl, hl⟩ := hleaf
    obtain ⟨ls, rfl, rfl, hls⟩ := ih
    exact ⟨l :: ls, rfl, rfl, fun l' hl' => (List.mem_cons.mp hl').elim (· ▸ hl) (hls l')⟩

/-- **Patterns** show the conjunction or disjunction of their leaves without
parentheses. -/
theorem of_leaves (j : Joiner) {ss : List String} {Bs : List (Formula Leaf)}
    (h : List.Forall₂ OfLeaf ss Bs) (hne : ss ≠ []) :
    Shows (Text.join (" " ++ j.text ++ " ") ss) (.fold j Bs) := by
  obtain ⟨ls, rfl, rfl, htexts⟩ := exists_leaves h
  have hvalues : ∀ holds, (ls.map Formula.leaf).filterMap (·.truth (Leaf.value holds)) =
      ls.map holds := by
    intro holds
    rw [List.filterMap_map, ← List.filterMap_eq_map]
    refine List.filterMap_congr fun l hl => ?_
    simp [Formula.truth, Leaf.value, htexts l hl]
  have hkept : (ls.map Formula.leaf).flatMap Formula.kept = ls := by
    rw [List.flatMap_map]
    refine (List.flatMap_congr fun l hl => ?_).trans (List.flatMap_singleton' ls)
    simp [Formula.kept, Formula.leaves, htexts l hl]
  -- every leaf is a factor of its own
  have hfactors : ∀ holds, List.Forall₂ (Token.IsFactor holds) (ls.map fun l => [Token.leaf l])
      ((ls.map Formula.leaf).filterMap (·.truth (Leaf.value holds))) := by
    intro holds
    rw [hvalues, List.forall₂_map_left_iff, List.forall₂_map_right_iff]
    exact List.forall₂_same.mpr fun l _ => Token.isFactor_leaf l
  refine of_factors hfactors ?_ ?_ ?_ ?_
  · rw [hkept, List.flatMap_map]
    exact List.flatMap_singleton' ls
  · intro hnil
    rw [List.map_eq_nil_iff] at hnil
    subst hnil
    exact hne rfl
  · cases ls with
    | nil => exact absurd rfl hne
    | cons l ls => exact join_ne_empty (htexts l List.mem_cons_self) _
  · rw [List.map_map]
    refine congrArg _ (List.map_congr_left fun l _ => ?_)
    exact String.append_empty

/-- How the pairs of a hash condition are put together. -/
def hashText : List String → String
  | [] => ""
  | [s] => s
  | ss => "(" ++ Text.join ") AND (" ss ++ ")"

/-- **A hash condition** shows the conjunction of its pairs. -/
theorem of_hash {ss : List String} {Bs : List (Formula Leaf)}
    (h : List.Forall₂ OfLeaf ss Bs) : Shows (hashText ss) (.fold .and Bs) := by
  have hshows : List.Forall₂ Shows ss Bs := h.imp fun s B => OfLeaf.shows
  rcases ss with _ | ⟨s, _ | ⟨s', rest⟩⟩
  · obtain rfl := List.forall₂_nil_left_iff.mp h
    exact of_nothing_left (fun _ => rfl) rfl
  · obtain ⟨B, Bs, hB, hBs, rfl⟩ := List.forall₂_cons_left_iff.mp hshows
    obtain rfl := List.forall₂_nil_left_iff.mp hBs
    exact of_single hB .and
  · -- no pair is left out, so several pairs are a junction
    have hall : (s :: s' :: rest).filter (!·.isEmpty) = s :: s' :: rest := by
      obtain ⟨ls, -, hls, htexts⟩ := exists_leaves h
      refine List.filter_eq_self.mpr fun s hs => ?_
      rw [← hls] at hs
      obtain ⟨l, hl, rfl⟩ := List.mem_map.mp hs
      simpa using htexts l hl
    have hjunction := of_junction .and hshows
    rw [hall] at hjunction
    exact hjunction

/-! ### The verdict -/

/-- A text that shows a formula has the truth value of what is kept of it. -/
theorem exists_verdict {s : String} {B : Formula Leaf} (h : Shows s B) :
    ∃ ts : List (Token Leaf), Token.writeAll Leaf.text ts = s ∧ Token.leaves ts = B.kept ∧
      ∀ holds : Leaf → Bool,
        Token.verdict holds ts = some ((B.truth (Leaf.value holds)).getD true) := by
  rcases h with ⟨rfl, htruth, hkept⟩ | ⟨-, ts, hwrite, hleaves, hwhole⟩
  · refine ⟨[], rfl, hkept.symm, fun holds => ?_⟩
    rw [htruth]
    rfl
  · refine ⟨ts, hwrite, hleaves, fun holds => ?_⟩
    obtain ⟨b, htruth, hb⟩ := hwhole holds
    rw [htruth]
    exact hb.verdict_eq

end Shows

end SqlCompose

import SqlCompose.Proofs.Text.Trim
/-!
# Balanced parentheses

A text is balanced (`Text.Balanced`) if reading it closes no parenthesis that was not opened, and
none is open at its end. Balanced texts stay so behind one another (`Text.Balanced.append`), in
parentheses (`Text.Balanced.enclosed`) and without the blanks at their ends
(`Text.Balanced.trim`). They cannot be cut anywhere, but a balanced text that opens no parenthesis
closes none either, and then no part of it has any (`Text.Balanced.noParens_of_subset`).
-/

namespace SqlCompose.Text

/-- **Balanced texts**: every beginning opens as many parentheses as it closes or more, and the
whole as many. -/
structure Balanced (s : String) : Prop where
  opened : ∀ n, (s.toList.take n).count ')' ≤ (s.toList.take n).count '('
  closed : s.toList.count ')' = s.toList.count '('

/-- A text without parentheses. -/
def NoParens (s : String) : Prop := '(' ∉ s.toList ∧ ')' ∉ s.toList

instance (s : String) : Decidable (NoParens s) := inferInstanceAs (Decidable (_ ∧ _))

/-- It is enough to read up to the end. -/
theorem balanced_iff {s : String} :
    Balanced s ↔
      (∀ n < s.toList.length, (s.toList.take n).count ')' ≤ (s.toList.take n).count '(') ∧
        s.toList.count ')' = s.toList.count '(' := by
  constructor
  · exact fun h => ⟨fun n _ => h.opened n, h.closed⟩
  · rintro ⟨hopened, hclosed⟩
    refine ⟨fun n => ?_, hclosed⟩
    rcases Nat.lt_or_ge n s.toList.length with hn | hn
    · exact hopened n hn
    · rw [List.take_of_length_le hn]
      exact Nat.le_of_eq hclosed

instance (s : String) : Decidable (Balanced s) := decidable_of_iff' _ balanced_iff

variable {s s' : String}

theorem NoParens.balanced (h : NoParens s) : Balanced s where
  opened n := by
    rw [List.count_eq_zero_of_not_mem fun hmem => h.2 (List.mem_of_mem_take hmem)]
    exact Nat.zero_le _
  closed := by
    rw [List.count_eq_zero_of_not_mem h.1, List.count_eq_zero_of_not_mem h.2]

namespace Balanced

theorem append (hs : Balanced s) (hs' : Balanced s') : Balanced (s ++ s') where
  opened n := by
    -- a beginning of both is one of the first text and one of the second
    rw [String.toList_append, List.take_append, List.count_append, List.count_append]
    exact Nat.add_le_add (hs.opened n) (hs'.opened _)
  closed := by
    rw [String.toList_append, List.count_append, List.count_append, hs.closed, hs'.closed]

theorem enclosed (hs : Balanced s) : Balanced ("(" ++ s ++ ")") := by
  have hlist : ("(" ++ s ++ ")").toList = '(' :: (s.toList ++ [')']) := by simp
  have hopen : ∀ cs : List Char, ('(' :: cs).count '(' = cs.count '(' + 1 ∧
      ('(' :: cs).count ')' = cs.count ')' := fun cs => by simp
  constructor
  · intro n
    rw [hlist]
    cases n with
    | zero => exact Nat.le_refl _
    | succ n =>
      -- the one behind the text closes the one in front of it
      have hmiddle := hs.opened n
      have hend : ([')'].take (n - s.toList.length)).count ')' ≤ 1 :=
        (List.take_sublist _ _).count_le ')'
      rw [List.take_succ_cons, (hopen _).1, (hopen _).2, List.take_append, List.count_append,
        List.count_append]
      omega
  · have hend : [')'].count '(' = 0 ∧ [')'].count ')' = 1 := by decide
    rw [hlist, (hopen _).1, (hopen _).2, List.count_append, List.count_append, hs.closed, hend.1,
      hend.2]

/-- **Parts** of a balanced text that opens no parenthesis have none, wherever it is cut. -/
theorem noParens_of_subset (hs : Balanced s) (hopen : '(' ∉ s.toList)
    (h : s'.toList ⊆ s.toList) : NoParens s' := by
  refine ⟨fun hmem => hopen (h hmem), fun hmem => ?_⟩
  have hclosed : s.toList.count ')' = 0 := by
    rw [hs.closed, List.count_eq_zero_of_not_mem hopen]
  exact List.count_eq_zero.mp hclosed (h hmem)

theorem trim (hs : Balanced s) : Balanced (trim s) := by
  obtain ⟨w, w', hw, hw', hsplit⟩ := exists_blanks_trimChars s.toList
  have hblank : ∀ {w : List Char}, AreBlank w → w.count '(' = 0 ∧ w.count ')' = 0 := by
    intro w hw
    constructor
    · exact List.count_eq_zero_of_not_mem fun hmem => by cases hw _ hmem
    · exact List.count_eq_zero_of_not_mem fun hmem => by cases hw _ hmem
  obtain ⟨hfront, hfront'⟩ := hblank hw
  rw [Text.trim]
  constructor
  · intro n
    -- behind the blanks in front, the whole text begins with the same characters
    have hle := hs.opened (w.length + n)
    have hback := hblank (w := w'.take (n - (trimChars s.toList).length))
      fun c hc => hw' c (List.mem_of_mem_take hc)
    rw [hsplit, List.append_assoc, List.take_length_add_append, List.take_append,
      List.count_append, List.count_append, List.count_append, List.count_append, hfront, hfront',
      hback.1, hback.2] at hle
    rw [String.toList_ofList]
    omega
  · have hcount := hs.closed
    rw [hsplit, List.count_append, List.count_append, List.count_append, List.count_append,
      hfront, hfront', (hblank hw').1, (hblank hw').2] at hcount
    rw [String.toList_ofList]
    omega

end Balanced

end SqlCompose.Text

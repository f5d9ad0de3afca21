import Mathlib.Data.List.TakeWhile
import SqlCompose.Text.Blank
/-!
# Trimming

Trimming takes blanks off the two ends of a text and nothing else (`Text.exists_blanks_trimChars`),
and blanks at the ends are all that it does not see (`Text.trimChars_between`). Hence a text that
was trimmed stays as it is (`Text.trimChars_trimChars`).
-/

namespace SqlCompose.Text

/-- Characters that are all blank. -/
def AreBlank (cs : List Char) : Prop := ∀ c ∈ cs, isBlank c = true

instance (cs : List Char) : Decidable (AreBlank cs) :=
  decidable_of_iff (cs.all isBlank = true) List.all_eq_true

variable {w w' : List Char}

theorem areBlank_nil : AreBlank [] := fun _ hc => absurd hc List.not_mem_nil

/-- Blanks at the end make no difference to what is trimmed there. -/
theorem trimEndChars_append (hw' : AreBlank w') (cs : List Char) :
    trimEndChars (cs ++ w') = trimEndChars cs := by
  rw [trimEndChars, List.reverse_append,
    List.dropWhile_append_of_pos fun c hc => hw' c (List.mem_reverse.mp hc), trimEndChars]

theorem exists_blanks_trimEndChars (cs : List Char) :
    ∃ w', AreBlank w' ∧ cs = trimEndChars cs ++ w' := by
  refine ⟨(cs.reverse.takeWhile isBlank).reverse,
    fun c hc => List.mem_takeWhile_imp (List.mem_reverse.mp hc), ?_⟩
  rw [trimEndChars, ← List.reverse_append, List.takeWhile_append_dropWhile, List.reverse_reverse]

/-- **Trimming takes blanks off**, and nothing else. -/
theorem exists_blanks_trimChars (cs : List Char) :
    ∃ w w', AreBlank w ∧ AreBlank w' ∧ cs = w ++ trimChars cs ++ w' := by
  obtain ⟨w', hw', hend⟩ := exists_blanks_trimEndChars (trimStartChars cs)
  refine ⟨cs.takeWhile isBlank, w', fun c hc => List.mem_takeWhile_imp hc, hw', ?_⟩
  rw [trimChars, List.append_assoc, ← hend, trimStartChars, List.takeWhile_append_dropWhile]

/-- **Blanks at the ends** make no difference to what is trimmed. -/
theorem trimChars_between (hw : AreBlank w) (hw' : AreBlank w') (cs : List Char) :
    trimChars (w ++ cs ++ w') = trimChars cs := by
  have hfront : trimStartChars (w ++ cs ++ w') = trimStartChars (cs ++ w') := by
    rw [List.append_assoc]
    exact List.dropWhile_append_of_pos hw
  have hnothing : w'.dropWhile isBlank = [] := by
    have h : (w' ++ []).dropWhile isBlank = [] := List.dropWhile_append_of_pos hw'
    rwa [List.append_nil] at h
  rw [trimChars, trimChars, hfront, trimStartChars, trimStartChars, List.dropWhile_append]
  split
  · -- the text is blank, and so is all that stands around it
    next hempty =>
    rw [hnothing, List.isEmpty_iff.mp hempty]
  · exact trimEndChars_append hw' _

theorem trimChars_of_areBlank (hw : AreBlank w) : trimChars w = [] := by
  have h := trimChars_between hw areBlank_nil []
  rwa [List.append_nil, List.append_nil] at h

/-- What was trimmed is trimmed. -/
theorem trimChars_trimChars (cs : List Char) : trimChars (trimChars cs) = trimChars cs := by
  obtain ⟨w, w', hw, hw', hcs⟩ := exists_blanks_trimChars cs
  rw [← trimChars_between hw hw' (trimChars cs), ← hcs]

/-! ### Texts that are trimmed -/

theorem trimEndChars_trimEndChars (cs : List Char) :
    trimEndChars (trimEndChars cs) = trimEndChars cs := by
  obtain ⟨w', hw', hcs⟩ := exists_blanks_trimEndChars cs
  rw [← trimEndChars_append hw' (trimEndChars cs), ← hcs]

theorem trimEndChars_of_trimmed {cs : List Char} (h : trimChars cs = cs) :
    trimEndChars cs = cs := by
  rw [← h, trimChars, trimEndChars_trimEndChars]

theorem trimStartChars_of_trimmed {cs : List Char} (h : trimChars cs = cs) :
    trimStartChars cs = cs := by
  -- what is left at the end is as long as the whole text
  have hend : cs.length ≤ (trimStartChars cs).length := by
    obtain ⟨w', -, hstart⟩ := exists_blanks_trimEndChars (trimStartChars cs)
    rw [hstart, List.length_append]
    change cs.length ≤ (trimChars cs).length + w'.length
    rw [h]
    exact Nat.le_add_right _ _
  exact (List.dropWhile_suffix isBlank).eq_of_length_le hend

theorem trimStartChars_append_of_trimmed {front : List Char}
    (hfront : trimStartChars front = front) (hne : front ≠ []) (back : List Char) :
    trimStartChars (front ++ back) = front ++ back := by
  rw [trimStartChars] at hfront
  rw [trimStartChars, List.dropWhile_append, hfront, if_neg (mt List.isEmpty_iff.mp hne)]

theorem trimEndChars_append_of_trimmed {back : List Char} (hback : trimEndChars back = back)
    (hne : back ≠ []) (front : List Char) : trimEndChars (front ++ back) = front ++ back := by
  have hend : back.reverse.dropWhile isBlank = back.reverse := List.reverse_eq_iff.mp hback
  have hne' : ¬back.reverse.isEmpty = true := by
    rwa [List.isEmpty_iff, List.reverse_eq_nil_iff]
  rw [trimEndChars, List.reverse_append, List.dropWhile_append, hend, if_neg hne',
    ← List.reverse_append, List.reverse_reverse]

/-- **Two texts in a row** are trimmed if the one is in front and the other at the end. -/
theorem trimChars_append {front back : List Char} (hfront : trimStartChars front = front)
    (hback : trimEndChars back = back) (hne : front ≠ []) (hne' : back ≠ []) :
    trimChars (front ++ back) = front ++ back := by
  rw [trimChars, trimStartChars_append_of_trimmed hfront hne,
    trimEndChars_append_of_trimmed hback hne']

end SqlCompose.Text

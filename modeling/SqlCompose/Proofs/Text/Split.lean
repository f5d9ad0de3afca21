import Mathlib.Data.List.Infix
import Mathlib.Data.List.TakeWhile
import SqlCompose.Text.Basic
/-!
# Cutting texts and joining them again

The library cuts texts with functions of its own. Here they are tied to those of the core
library: `Text.splitChars` is `List.splitOn` and `Text.join` is `String.intercalate`, so a text
that was split is joined again to itself (`Text.join_split`), and parts without the separator
come back out of the text that they were joined to (`Text.split_join`). `Text.splitLast?` cuts
off the last of these parts (`Text.splitLast?_eq_some_iff`), and `Text.contains` searches for an
infix (`Text.contains_iff`).

What is searched for and has no separator in it is never found across one
(`Text.infix_between_iff`, `Text.infix_join_iff`).
-/

namespace SqlCompose.Text

variable {sep : Char}

/-! ### Searching -/

theorem has_iff {c : Char} {s : String} : has c s = true ↔ c ∈ s.toList := by
  rw [has, List.contains_iff_mem]

theorem occursIn_iff {part cs : List Char} : occursIn part cs = true ↔ part <:+: cs := by
  induction cs with
  | nil => rw [occursIn, List.isEmpty_iff, List.infix_nil]
  | cons c cs ih =>
    rw [occursIn, Bool.or_eq_true, ih, List.isPrefixOf_iff_prefix, List.infix_cons_iff]

theorem contains_iff {part s : String} : contains part s = true ↔ part.toList <:+: s.toList :=
  occursIn_iff

/-- What has no separator in it is found on one side of a separator, or not at all. -/
theorem infix_between_iff {l xs ys : List Char} (hl : sep ∉ l) :
    l <:+: xs ++ sep :: ys ↔ l <:+: xs ∨ l <:+: ys := by
  constructor
  · intro h
    rcases List.infix_append_iff.mp h with h | h | ⟨l₁, l₂, rfl, hfront, hback⟩
    · exact Or.inl h
    · rcases List.infix_cons_iff.mp h with h | h
      · -- a beginning of `sep :: ys` without `sep` is empty
        cases l with
        | nil => exact Or.inl List.nil_infix
        | cons c l =>
          obtain ⟨rfl, -⟩ := List.cons_prefix_cons.mp h
          exact absurd List.mem_cons_self hl
      · exact Or.inr h
    · -- what crosses over to `sep :: ys` does not go any further
      cases l₂ with
      | nil =>
        rw [List.append_nil]
        exact Or.inl hfront.isInfix
      | cons c l₂ =>
        obtain ⟨rfl, -⟩ := List.cons_prefix_cons.mp hback
        exact absurd (List.mem_append_right l₁ List.mem_cons_self) hl
  · rintro (h | h)
    · exact h.trans (List.prefix_append _ _).isInfix
    · exact (h.trans (List.suffix_cons _ _).isInfix).trans (List.suffix_append _ _).isInfix

/-! ### Runs of characters -/

/-- A run of characters of one kind ends in front of a character of another. -/
theorem takeWhile_run {p : Char → Bool} {run rest : List Char} (hrun : ∀ c ∈ run, p c = true)
    (hrest : ∀ c ∈ rest.head?, p c = false) :
    (run ++ rest).takeWhile p = run ∧ (run ++ rest).dropWhile p = rest := by
  have hstop : rest.takeWhile p = [] ∧ rest.dropWhile p = rest := by
    cases rest with
    | nil => exact ⟨rfl, rfl⟩
    | cons c rest =>
      have hc : p c = false := hrest c rfl
      simp [hc]
  rw [List.takeWhile_append_of_pos hrun, List.dropWhile_append_of_pos hrun, hstop.1, hstop.2,
    List.append_nil]
  exact ⟨rfl, rfl⟩

/-- The run of the characters in front of a separator. -/
theorem takeWhile_ne {run : List Char} (hrun : sep ∉ run) (rest : List Char) :
    (run ++ sep :: rest).takeWhile (· ≠ sep) = run ∧
      (run ++ sep :: rest).dropWhile (· ≠ sep) = sep :: rest := by
  refine takeWhile_run (fun c hc => ?_) fun c hc => ?_
  · rw [decide_eq_true_eq]
    exact ne_of_mem_of_not_mem hc hrun
  · cases hc
    simp

/-- Without a separator there is no end to the run. -/
theorem dropWhile_ne_of_notMem {run : List Char} (hrun : sep ∉ run) :
    run.dropWhile (· ≠ sep) = [] := by
  rw [List.dropWhile_eq_nil_iff]
  intro c hc
  rw [decide_eq_true_eq]
  exact ne_of_mem_of_not_mem hc hrun

/-! ### Splitting and joining -/

theorem splitChars_eq_splitOn (sep : Char) (cs : List Char) :
    splitChars sep cs = cs.splitOn sep := by
  induction cs with
  | nil => rfl
  | cons c cs ih =>
    rw [splitChars, List.splitOn_cons_eq_if_modifyHead, ← ih]
    by_cases hc : c = sep
    · rw [if_pos hc, if_pos (beq_iff_eq.mpr hc)]
    · rw [if_neg hc, if_neg (mt beq_iff_eq.mp hc)]
      cases hpieces : splitChars sep cs with
      | nil => exact absurd hpieces (splitChars_ne_nil sep cs)
      | cons piece rest => rfl

theorem split_ne_nil (sep : Char) (s : String) : split sep s ≠ [] := by
  rw [split, ne_eq, List.map_eq_nil_iff]
  exact splitChars_ne_nil sep s.toList

theorem join_eq_intercalate (sep : String) (parts : List String) :
    join sep parts = sep.intercalate parts := by
  induction parts with
  | nil => exact String.intercalate_nil.symm
  | cons s rest ih =>
    cases rest with
    | nil => exact String.intercalate_singleton.symm
    | cons s' rest => rw [join, ih, String.intercalate_cons_cons]; exact nofun

/-- The text behind the first part starts with a separator. -/
theorem join_cons {sep s : String} {rest : List String} (h : rest ≠ []) :
    join sep (s :: rest) = s ++ sep ++ join sep rest := by
  cases rest with
  | nil => exact absurd rfl h
  | cons s' rest => rfl

theorem toList_join (sep : Char) (parts : List String) :
    (join (String.ofList [sep]) parts).toList = [sep].intercalate (parts.map String.toList) := by
  rw [join_eq_intercalate, String.toList_intercalate, String.toList_ofList]

theorem notMem_of_mem_splitChars {cs piece : List Char} (h : piece ∈ splitChars sep cs) :
    sep ∉ piece := by
  induction cs generalizing piece with
  | nil =>
    rw [splitChars, List.mem_singleton] at h
    rw [h]
    exact List.not_mem_nil
  | cons c cs ih =>
    rw [splitChars] at h
    split at h
    · rcases List.mem_cons.mp h with rfl | h
      · exact List.not_mem_nil
      · exact ih h
    · next hc =>
      cases hpieces : splitChars sep cs with
      | nil => exact absurd hpieces (splitChars_ne_nil sep cs)
      | cons first rest =>
        rw [hpieces] at h ih
        rcases List.mem_cons.mp h with rfl | h
        · -- the first piece has got a character more, which is no separator
          rw [List.mem_cons, not_or]
          exact ⟨Ne.symm hc, ih List.mem_cons_self⟩
        · exact ih (List.mem_cons_of_mem _ h)

theorem notMem_of_mem_split {s part : String} (h : part ∈ split sep s) : sep ∉ part.toList := by
  obtain ⟨piece, hpiece, rfl⟩ := List.mem_map.mp h
  rw [String.toList_ofList]
  exact notMem_of_mem_splitChars hpiece

/-- **Splitting loses nothing.** -/
theorem join_split (sep : Char) (s : String) : join (String.ofList [sep]) (split sep s) = s := by
  have hchars : (split sep s).map String.toList = s.toList.splitOn sep := by
    rw [split, List.map_map, splitChars_eq_splitOn]
    exact (List.map_congr_left fun cs _ => String.toList_ofList).trans (List.map_id _)
  rw [← String.toList_inj, toList_join, hchars, List.intercalate_splitOn]

/-- **Parts come back** out of a text if the separator is in none of them. -/
theorem split_join {parts : List String} (hne : parts ≠ [])
    (h : ∀ part ∈ parts, sep ∉ part.toList) :
    split sep (join (String.ofList [sep]) parts) = parts := by
  have hparts : ∀ cs ∈ parts.map String.toList, sep ∉ cs := by
    intro cs hcs
    obtain ⟨part, hpart, rfl⟩ := List.mem_map.mp hcs
    exact h part hpart
  rw [split, splitChars_eq_splitOn, toList_join, List.splitOn_intercalate sep hparts, List.map_map]
  · exact (List.map_congr_left fun part _ => String.ofList_toList).trans (List.map_id _)
  · rwa [ne_eq, List.map_eq_nil_iff]

/-- What has no separator in it is found in one of the parts, or not at all. -/
theorem infix_join_iff {parts : List String} (hne : parts ≠ []) {l : List Char} (hl : sep ∉ l) :
    l <:+: (join (String.ofList [sep]) parts).toList ↔ ∃ part ∈ parts, l <:+: part.toList := by
  induction parts with
  | nil => exact absurd rfl hne
  | cons s rest ih =>
    cases rest with
    | nil => simp [join]
    | cons s' rest =>
      rw [join_cons (List.cons_ne_nil _ _), String.toList_append, String.toList_append,
        String.toList_ofList, List.append_assoc, List.singleton_append, infix_between_iff hl,
        ih (List.cons_ne_nil _ _)]
      simp only [List.mem_cons, exists_eq_or_imp]

/-- Characters are dropped from a joined text by dropping them from its parts. -/
theorem filter_join (f : Char → Bool) (sep : String) (parts : List String) :
    (join sep parts).toList.filter f =
      (sep.toList.filter f).intercalate (parts.map fun part => part.toList.filter f) := by
  induction parts with
  | nil => rfl
  | cons s rest ih =>
    cases rest with
    | nil => simp [join]
    | cons s' rest =>
      rw [join_cons (List.cons_ne_nil _ _), String.toList_append, String.toList_append,
        List.filter_append, List.filter_append, ih]
      simp [List.intercalate]

/-- Texts in parentheses of their own, with words between them. -/
theorem join_parenthesized (word s : String) (ss : List String) :
    "(" ++ join (") " ++ word ++ " (") (s :: ss) ++ ")" =
      join (" " ++ word ++ " ") ((s :: ss).map fun s => "(" ++ s ++ ")") := by
  induction ss generalizing s with
  | nil => rfl
  | cons s' ss ih =>
    have hcons : join (" " ++ word ++ " ") ((s :: s' :: ss).map fun s => "(" ++ s ++ ")") =
        "(" ++ s ++ ")" ++ (" " ++ word ++ " ") ++
          join (" " ++ word ++ " ") ((s' :: ss).map fun s => "(" ++ s ++ ")") := rfl
    have hleft : join (") " ++ word ++ " (") (s :: s' :: ss) =
        s ++ (") " ++ word ++ " (") ++ join (") " ++ word ++ " (") (s' :: ss) := rfl
    -- the parentheses between two texts belong to the separator on the left-hand side
    have hsep : ")" ++ (" " ++ word ++ " ") ++ "(" = ") " ++ word ++ " (" := by
      rw [← String.toList_inj]
      simp
    rw [hcons, ← ih, hleft, ← hsep]
    simp only [String.append_assoc]

/-! ### The last part -/

theorem exists_between_of_mem {s : String} (h : sep ∈ s.toList) :
    ∃ front back : String, s = front ++ String.ofList [sep] ++ back ∧ sep ∉ back.toList := by
  -- the last separator of a text is the first one of the reversed text
  obtain ⟨back, front, hreverse, hback⟩ :=
    List.eq_append_cons_of_mem (List.mem_reverse.mpr h)
  refine ⟨String.ofList front.reverse, String.ofList back.reverse, ?_, ?_⟩
  · rw [← String.toList_inj, ← List.reverse_inj, hreverse]
    simp
  · rwa [String.toList_ofList, List.mem_reverse]

theorem splitLast?_between {front back : String} (h : sep ∉ back.toList) :
    splitLast? sep (front ++ String.ofList [sep] ++ back) = some (front, back) := by
  have hlist : (front ++ String.ofList [sep] ++ back).toList =
      front.toList ++ sep :: back.toList := by simp
  -- the last separator is the first one from behind, and nothing in `back` is one
  have htail : ((front.toList ++ sep :: back.toList).reverse.takeWhile (· ≠ sep)).reverse =
      back.toList := by
    have hback : sep ∉ back.toList.reverse := mt List.mem_reverse.mp h
    rw [List.reverse_append, List.reverse_cons, List.append_assoc]
    exact (congrArg List.reverse (takeWhile_ne hback front.toList.reverse).1).trans
      (List.reverse_reverse _)
  -- what is left in front of it
  have hfront : (front.toList ++ sep :: back.toList).take
      ((front.toList ++ sep :: back.toList).length - back.toList.length - 1) = front.toList := by
    have hlength : (front.toList ++ sep :: back.toList).length - back.toList.length - 1 =
        front.toList.length := by
      rw [List.length_append, List.length_cons]
      omega
    rw [hlength, List.take_left]
  rw [splitLast?, hlist, htail, hfront, if_pos (by simp), String.ofList_toList,
    String.ofList_toList]

/-- **The last part** is what stands behind the last separator. -/
theorem splitLast?_eq_some_iff {s front back : String} :
    splitLast? sep s = some (front, back) ↔
      s = front ++ String.ofList [sep] ++ back ∧ sep ∉ back.toList := by
  constructor
  · intro h
    by_cases hmem : sep ∈ s.toList
    · obtain ⟨front', back', rfl, hback⟩ := exists_between_of_mem hmem
      rw [splitLast?_between hback] at h
      cases h
      exact ⟨rfl, hback⟩
    · -- without a separator nothing is cut off
      rw [splitLast?, if_neg (by simpa using hmem)] at h
      cases h
  · rintro ⟨rfl, hback⟩
    exact splitLast?_between hback

theorem splitLast?_eq_none_iff {s : String} : splitLast? sep s = none ↔ sep ∉ s.toList := by
  rw [splitLast?, ite_eq_right_iff]
  simp

end SqlCompose.Text

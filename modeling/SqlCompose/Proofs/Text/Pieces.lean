import SqlCompose.Compile.Alias
import SqlCompose.Proofs.Text.Split
/-!
# Pieces of a text

Names are split at points, trimmed and taken apart at an alias. What comes out of this is
made of characters of the text, so it is over the characters that the text is over
(`Text.Over`).
-/

namespace SqlCompose

namespace Text

/-- **Texts over some characters.** -/
def Over (p : Char → Prop) (s : String) : Prop := ∀ c ∈ s.toList, p c

instance (f : Char → Bool) (s : String) : Decidable (Over (f · = true) s) :=
  decidable_of_iff (s.toList.all f = true) List.all_eq_true

variable {p : Char → Prop} {s : String}

theorem Over.of_subset {s' : String} (hs : Over p s) (h : s'.toList ⊆ s.toList) : Over p s' :=
  fun c hc => hs c (h hc)

/-- Every text is over its own characters. -/
theorem over_self (s : String) : Over (· ∈ s.toList) s := fun _ hc => hc

theorem Over.append {s' : String} (hs : Over p s) (hs' : Over p s') : Over p (s ++ s') := by
  intro c hc
  rw [String.toList_append, List.mem_append] at hc
  exact hc.elim (hs c) (hs' c)

theorem mem_of_mem_splitChars {sep : Char} {cs piece : List Char} (h : piece ∈ splitChars sep cs) :
    piece ⊆ cs := by
  induction cs generalizing piece with
  | nil =>
    rw [splitChars, List.mem_singleton] at h
    rw [h]
    exact List.nil_subset _
  | cons c cs ih =>
    rw [splitChars] at h
    split at h
    · rcases List.mem_cons.mp h with rfl | h
      · exact List.nil_subset _
      · exact List.subset_cons_of_subset _ (ih h)
    · -- another character comes in front of the first piece of the rest
      cases hpieces : splitChars sep cs with
      | nil => exact absurd hpieces (splitChars_ne_nil sep cs)
      | cons first rest =>
        rw [hpieces] at h ih
        rcases List.mem_cons.mp h with rfl | h
        · exact List.cons_subset_cons c (ih List.mem_cons_self)
        · exact List.subset_cons_of_subset _ (ih (List.mem_cons_of_mem _ h))

theorem Over.of_mem_split {sep : Char} {part : String} (hs : Over p s) (h : part ∈ split sep s) :
    Over p part := by
  obtain ⟨piece, hpiece, rfl⟩ := List.mem_map.mp h
  refine hs.of_subset ?_
  rw [String.toList_ofList]
  exact mem_of_mem_splitChars hpiece

theorem Over.of_splitLast? {sep : Char} {front back : String} (hs : Over p s)
    (h : splitLast? sep s = some (front, back)) : Over p front ∧ Over p back := by
  obtain ⟨rfl, -⟩ := splitLast?_eq_some_iff.mp h
  constructor
  · refine hs.of_subset fun c hc => ?_
    simp [hc]
  · refine hs.of_subset fun c hc => ?_
    simp [hc]

theorem Over.trim (hs : Over p s) : Over p (trim s) := by
  refine hs.of_subset ?_
  rw [Text.trim, String.toList_ofList, trimChars, trimEndChars, trimStartChars]
  intro c hc
  have hend := (List.dropWhile_sublist _).subset (List.mem_reverse.mp hc)
  exact (List.dropWhile_sublist _).subset (List.mem_reverse.mp hend)

end Text

namespace Alias

theorem subset_of_afterBlanks? {allowed : Char → Bool} {cs name : List Char}
    (h : afterBlanks? allowed cs = some name) : name ⊆ cs := by
  unfold afterBlanks? at h
  dsimp only at h
  split at h
  · -- the text ends in blanks, and the last of them is the alias
    split at h
    · next last _ _ hblanks =>
      split at h
      · cases h
        intro c hc
        rw [List.mem_singleton.mp hc]
        have hlast : last ∈ (cs.takeWhile Text.isBlank).reverse := by
          rw [hblanks]
          exact List.mem_cons_self
        exact (List.takeWhile_sublist _).subset (List.mem_reverse.mp hlast)
      · cases h
    · cases h
  · split at h
    · cases h
      exact (List.dropWhile_sublist _).subset
    · cases h

theorem subset_of_afterWord? {allowed : Char → Bool} {cs name : List Char}
    (h : afterWord? allowed cs = some name) : name ⊆ cs := by
  unfold afterWord? at h
  split at h
  · split at h
    · split at h
      · -- two letters and what follows them stand behind the blanks
        next a s rest hdrop =>
        split at h
        · intro c hc
          have hmem := subset_of_afterBlanks? h hc
          refine (List.dropWhile_sublist Text.isBlank).subset ?_
          rw [hdrop]
          exact List.mem_cons_of_mem _ (List.mem_cons_of_mem _ hmem)
        · cases h
      · cases h
    · cases h
  · cases h

theorem subset_of_behind? {allowed : Char → Bool} {cs name : List Char}
    (h : behind? allowed cs = some name) : name ⊆ cs := by
  unfold behind? at h
  cases hword : afterWord? allowed cs with
  | some name' =>
    rw [hword] at h
    cases h
    exact subset_of_afterWord? hword
  | none =>
    rw [hword] at h
    exact subset_of_afterBlanks? h

/-- A name and its alias are made of characters of the text. -/
theorem subset_of_split? {allowed : Char → Bool} {cs front name : List Char}
    (h : split? allowed cs = some (front, name)) : front ⊆ cs ∧ name ⊆ cs := by
  induction cs generalizing front with
  | nil =>
    rw [split?_nil] at h
    cases h
  | cons c cs ih =>
    rw [split?_cons] at h
    cases hbehind : behind? allowed (c :: cs) with
    | some name' =>
      rw [hbehind] at h
      cases h
      -- the alias starts here, and nothing is left for the name
      exact ⟨List.nil_subset _, subset_of_behind? hbehind⟩
    | none =>
      rw [hbehind, Option.elim_none] at h
      split at h
      · cases h
      · -- the character belongs to the name, and the alias stands further behind
        obtain ⟨⟨front', name'⟩, hsplit, heq⟩ := Option.map_eq_some_iff.mp h
        cases heq
        obtain ⟨hfront, hname⟩ := ih hsplit
        exact ⟨List.cons_subset_cons c hfront, List.subset_cons_of_subset c hname⟩

/-- The name and the alias are over the characters that the text is over. -/
theorem over_of_split? {p : Char → Prop} {allowed : Char → Bool} {text front name : String}
    (hs : Text.Over p text)
    (h : (split? allowed text.toList).map (fun r => (String.ofList r.1, String.ofList r.2)) =
      some (front, name)) : Text.Over p front ∧ Text.Over p name := by
  obtain ⟨⟨front', name'⟩, hsplit, heq⟩ := Option.map_eq_some_iff.mp h
  cases heq
  obtain ⟨hfront, hname⟩ := subset_of_split? hsplit
  exact ⟨hs.of_subset (by rwa [String.toList_ofList]), hs.of_subset (by rwa [String.toList_ofList])⟩

end Alias

end SqlCompose

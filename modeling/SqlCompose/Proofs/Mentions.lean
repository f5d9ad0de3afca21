import Mathlib.Data.List.Induction
import Mathlib.Data.List.Nodup
/-!
# Mentions, each once

Names that are mentioned several times, each time with something else, are settled (`settle`) by
keeping each where it is mentioned first, with what it is mentioned with last.

`List.eraseDups` keeps the first mentions, and so the order in which the names came in. What is
left are distinct names (`nodup_eraseDups`), a further mention changes nothing
(`eraseDups_append_cons_of_mem`), and distinct names stay as they are (`eraseDups_of_nodup`).
The last mention of a name is one of the second part, if any (`lastMention_append`). One mention
more therefore comes last (`settle_concat_of_notMem`) or replaces what was mentioned with the name
(`settle_concat_of_mem`).
-/

namespace SqlCompose

/-! ### First mentions -/

section Names

variable {α β : Type} [BEq α] [LawfulBEq α] [BEq β] [LawfulBEq β]

theorem nodup_eraseDups (xs : List α) : xs.eraseDups.Nodup := by
  induction h : xs.length using Nat.strongRecOn generalizing xs with
  | _ n ih =>
    cases xs with
    | nil => simp
    | cons x xs =>
      have hle := List.length_filter_le (fun y => !y == x) xs
      rw [List.eraseDups_cons, List.nodup_cons]
      refine ⟨by simp [List.mem_eraseDups], ih _ ?_ _ rfl⟩
      rw [← h, List.length_cons]
      omega

/-- A function that keeps different items different keeps the first occurrences. -/
theorem eraseDups_map {g : α → β} {xs : List α}
    (hg : ∀ a ∈ xs, ∀ b ∈ xs, g a = g b → a = b) :
    (xs.map g).eraseDups = xs.eraseDups.map g := by
  induction h : xs.length using Nat.strongRecOn generalizing xs with
  | _ n ih =>
    cases xs with
    | nil => simp
    | cons x xs =>
      have hle := List.length_filter_le (fun y => !y == x) xs
      -- the later occurrences of the image are those of the item
      have hfilter : (xs.map g).filter (fun y => !y == g x) =
          (xs.filter fun y => !y == x).map g := by
        rw [List.filter_map]
        refine congrArg (List.map g) (List.filter_congr fun y hy => ?_)
        have hiff : g y = g x ↔ y = x :=
          ⟨hg y (List.mem_cons_of_mem _ hy) x List.mem_cons_self, congrArg g⟩
        by_cases hyx : y = x
        · simp [hyx]
        · simp [hyx, mt hiff.mp hyx]
      rw [List.map_cons, List.eraseDups_cons, hfilter, List.eraseDups_cons, List.map_cons]
      refine congrArg (g x :: ·) (ih _ ?_ ?_ rfl)
      · rw [← h, List.length_cons]
        omega
      · intro a ha b hb
        exact hg a (List.mem_cons_of_mem _ (List.mem_of_mem_filter ha)) b
          (List.mem_cons_of_mem _ (List.mem_of_mem_filter hb))

/-- A second mention changes nothing. -/
theorem eraseDups_append_cons_of_mem {xs : List α} {x : α} (h : x ∈ xs) (ys : List α) :
    (xs ++ x :: ys).eraseDups = (xs ++ ys).eraseDups := by
  rw [List.eraseDups_append, List.eraseDups_append, List.cons_removeAll,
    if_neg (by simpa using h)]

/-- Without second mentions everything stays. -/
theorem eraseDups_of_nodup {xs : List α} (h : xs.Nodup) : xs.eraseDups = xs := by
  induction xs with
  | nil => rfl
  | cons x xs ih =>
    obtain ⟨hx, hxs⟩ := List.nodup_cons.mp h
    have hfilter : xs.filter (fun b => !b == x) = xs := by
      refine List.filter_eq_self.mpr fun y hy => ?_
      simpa using ne_of_mem_of_not_mem hy hx
    rw [List.eraseDups_cons, hfilter, ih hxs]

theorem eraseDups_concat_of_mem {xs : List α} {x : α} (h : x ∈ xs) :
    (xs ++ [x]).eraseDups = xs.eraseDups := by
  rw [eraseDups_append_cons_of_mem h, List.append_nil]

theorem eraseDups_concat_of_notMem {xs : List α} {x : α} (h : x ∉ xs) :
    (xs ++ [x]).eraseDups = xs.eraseDups ++ [x] := by
  rw [List.eraseDups_append, List.cons_removeAll, if_pos (by simpa using h)]
  rfl

/-- Nothing but second mentions changes nothing. -/
theorem eraseDups_append_of_subset {xs ys : List α} (h : ys ⊆ xs) :
    (xs ++ ys).eraseDups = xs.eraseDups := by
  induction ys with
  | nil => rw [List.append_nil]
  | cons y ys ih =>
    rw [eraseDups_append_cons_of_mem (h List.mem_cons_self)]
    exact ih fun y' hy' => h (List.mem_cons_of_mem y hy')

/-- Second mentions may be left out behind other mentions first. -/
theorem eraseDups_append_eraseDups (xs ys : List α) :
    (xs ++ ys.eraseDups).eraseDups = (xs ++ ys).eraseDups := by
  induction ys using List.reverseRecOn with
  | nil => rfl
  | append_singleton ys y ih =>
    -- `y` may be mentioned in `ys` before, in `xs` alone, or nowhere
    by_cases hys : y ∈ ys
    · rw [eraseDups_concat_of_mem hys, ih, ← List.append_assoc,
        eraseDups_concat_of_mem (List.mem_append_right xs hys)]
    · rw [eraseDups_concat_of_notMem hys, ← List.append_assoc, ← List.append_assoc]
      by_cases hxs : y ∈ xs
      · rw [eraseDups_concat_of_mem (List.mem_append_left _ hxs), ih,
          eraseDups_concat_of_mem (List.mem_append_left _ hxs)]
      · rw [eraseDups_concat_of_notMem (by simp [hxs, hys, List.mem_eraseDups]), ih,
          eraseDups_concat_of_notMem (by simp [hxs, hys])]

/-- Second mentions may be left out in front of other mentions first. -/
theorem eraseDups_eraseDups_append (xs ys : List α) :
    (xs.eraseDups ++ ys).eraseDups = (xs ++ ys).eraseDups := by
  induction ys using List.reverseRecOn with
  | nil => rw [List.append_nil, List.append_nil, eraseDups_of_nodup (nodup_eraseDups xs)]
  | append_singleton ys y ih =>
    have hmem : y ∈ xs.eraseDups ++ ys ↔ y ∈ xs ++ ys := by simp [List.mem_eraseDups]
    rw [← List.append_assoc, ← List.append_assoc]
    by_cases h : y ∈ xs ++ ys
    · rw [eraseDups_concat_of_mem (hmem.mpr h), ih, eraseDups_concat_of_mem h]
    · rw [eraseDups_concat_of_notMem (mt hmem.mp h), ih, eraseDups_concat_of_notMem h]

end Names

/-! ### Last mentions -/

variable {β : Type}

/-- What a name is mentioned with last. -/
def lastMention (mentions : List (String × β)) (name : String) : Option β :=
  (mentions.findRev? (·.1 == name)).map (·.2)

/-- **Mentions settled**: every name once, in the order of the first mentions, with what it is
mentioned with last. -/
def settle (mentions : List (String × β)) : List (String × β) :=
  (mentions.map (·.1)).eraseDups.filterMap fun name =>
    (lastMention mentions name).map fun b => (name, b)

theorem lastMention_append (mentions more : List (String × β)) (name : String) :
    lastMention (mentions ++ more) name =
      (lastMention more name).or (lastMention mentions name) := by
  rw [lastMention, List.findRev?_eq_find?_reverse, List.reverse_append, List.find?_append]
  simp only [lastMention, List.findRev?_eq_find?_reverse, Option.map_or]

theorem lastMention_singleton (e : String × β) (name : String) :
    lastMention [e] name = if e.1 = name then some e.2 else none := by
  rw [lastMention, List.findRev?_eq_find?_reverse, List.reverse_singleton]
  by_cases h : e.1 = name
  · rw [List.find?_cons_of_pos (by simpa using h), if_pos h]
    rfl
  · rw [List.find?_cons_of_neg (by simpa using h), if_neg h]
    rfl

theorem exists_lastMention {mentions : List (String × β)} {name : String}
    (h : name ∈ mentions.map (·.1)) : ∃ b, lastMention mentions name = some b := by
  obtain ⟨e, he, rfl⟩ := List.mem_map.mp h
  have hfound : (mentions.reverse.find? (·.1 == e.1)).isSome = true :=
    List.find?_isSome.mpr ⟨e, List.mem_reverse.mpr he, by simp⟩
  obtain ⟨e', he'⟩ := Option.isSome_iff_exists.mp hfound
  refine ⟨e'.2, ?_⟩
  rw [lastMention, List.findRev?_eq_find?_reverse, he']
  rfl

/-- The names that are left are those that are mentioned. -/
theorem names_settle (mentions : List (String × β)) :
    (settle mentions).map (·.1) = (mentions.map (·.1)).eraseDups := by
  rw [settle, List.map_filterMap]
  have hall : ∀ name ∈ (mentions.map (·.1)).eraseDups,
      ((lastMention mentions name).map fun b => (name, b)).map (·.1) = some name := by
    intro name hname
    obtain ⟨b, hb⟩ := exists_lastMention (List.mem_eraseDups.mp hname)
    rw [hb]
    rfl
  rw [List.filterMap_congr hall, List.filterMap_some]

theorem nodup_settle (mentions : List (String × β)) : ((settle mentions).map (·.1)).Nodup := by
  rw [names_settle]
  exact nodup_eraseDups _

section Concat

variable {mentions : List (String × β)} {e : String × β}

/-- A name that is mentioned for the first time comes last. -/
theorem settle_concat_of_notMem (h : e.1 ∉ mentions.map (·.1)) :
    settle (mentions ++ [e]) = settle mentions ++ [e] := by
  have hnames : ((mentions ++ [e]).map (·.1)).eraseDups =
      (mentions.map (·.1)).eraseDups ++ [e.1] := by
    rw [List.map_append, List.map_singleton, eraseDups_concat_of_notMem h]
  rw [settle, settle, hnames, List.filterMap_append]
  refine congrArg₂ (· ++ ·) (List.filterMap_congr fun name hname => ?_) ?_
  · -- the last mentions of the other names are those that they had
    have hne : e.1 ≠ name := (ne_of_mem_of_not_mem (List.mem_eraseDups.mp hname) h).symm
    rw [lastMention_append, lastMention_singleton, if_neg hne, Option.none_or]
  · rw [List.filterMap_cons, lastMention_append, lastMention_singleton, if_pos rfl]
    rfl

/-- A name that is mentioned again keeps its place. -/
theorem settle_concat_of_mem (h : e.1 ∈ mentions.map (·.1)) :
    settle (mentions ++ [e]) = (settle mentions).map fun e' => if e'.1 = e.1 then e else e' := by
  have hnames : ((mentions ++ [e]).map (·.1)).eraseDups = (mentions.map (·.1)).eraseDups := by
    rw [List.map_append, List.map_singleton, eraseDups_concat_of_mem h]
  rw [settle, settle, hnames, List.map_filterMap]
  refine List.filterMap_congr fun name hname => ?_
  obtain ⟨b, hb⟩ := exists_lastMention (List.mem_eraseDups.mp hname)
  rw [lastMention_append, lastMention_singleton, hb]
  by_cases hsame : e.1 = name
  · simp [← hsame]
  · simp [hsame, Ne.symm hsame]

end Concat

end SqlCompose

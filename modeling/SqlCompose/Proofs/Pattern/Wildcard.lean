import Mathlib.Data.List.Infix
import SqlCompose.Condition.LikeEscape
/-!
# Patterns with wildcards

What a pattern says to a backend that has the backslash as its escape character: a
percent sign stands for any characters, an underscore for any single one, a backslash
with a character behind it for this character, and every other character for itself
(`Wildcard.fits`).

The standard escaping puts a backslash in front of the three characters that would say
something else (`Wildcard.apply_standard`). So an escaped value stands for the value
itself, whatever comes behind it (`Wildcard.fits_escaped_append`), and between percent
signs for every text in which the value occurs (`Wildcard.fits_enclosed`).
-/

namespace SqlCompose.Wildcard

/-- **Matching.** Whether a text fits a pattern. A backslash with nothing behind it stands
for itself. -/
def fits : List Char → List Char → Bool
  | [], text => text.isEmpty
  | '%' :: pattern, text => text.tails.any (fits pattern)
  | '_' :: pattern, text => !text.isEmpty && fits pattern text.tail
  | '\\' :: c :: pattern, text => text.head? == some c && fits pattern text.tail
  | c :: pattern, text => text.head? == some c && fits pattern text.tail

example : fits "a\\%_%".toList "a%bc".toList = true ∧ fits "a\\%_%".toList "abbc".toList = false := by
  decide

/-! ### What the parts of a pattern stand for -/

/-- A percent sign passes over any characters. -/
theorem fits_percent (pattern text : List Char) :
    fits ('%' :: pattern) text = true ↔
      ∃ skipped rest, text = skipped ++ rest ∧ fits pattern rest = true := by
  rw [fits, List.any_eq_true]
  constructor
  · rintro ⟨rest, hrest, hfits⟩
    obtain ⟨skipped, heq⟩ := (List.mem_tails rest text).mp hrest
    exact ⟨skipped, rest, heq.symm, hfits⟩
  · rintro ⟨skipped, rest, rfl, hfits⟩
    exact ⟨rest, (List.mem_tails _ _).mpr (List.suffix_append _ _), hfits⟩

/-- A character in front of a text that fits the rest. -/
theorem head_fits (c : Char) (pattern text : List Char) :
    (text.head? == some c && fits pattern text.tail) = true ↔
      ∃ rest, text = c :: rest ∧ fits pattern rest = true := by
  cases text with
  | nil => simp
  | cons d rest =>
    simp only [List.head?_cons, List.tail_cons, Bool.and_eq_true, beq_iff_eq, Option.some.injEq,
      List.cons.injEq]
    constructor
    · rintro ⟨rfl, hfits⟩
      exact ⟨rest, ⟨rfl, rfl⟩, hfits⟩
    · rintro ⟨rest', ⟨rfl, rfl⟩, hfits⟩
      exact ⟨rfl, hfits⟩

/-! ### Escaped values -/

/-- A character as a pattern that stands for it. -/
def escaped (c : Char) : List Char :=
  if c = '%' ∨ c = '_' ∨ c = '\\' then ['\\', c] else [c]

/-- An escaped character stands for itself. -/
theorem fits_escaped (c : Char) (pattern text : List Char) :
    fits (escaped c ++ pattern) text = true ↔
      ∃ rest, text = c :: rest ∧ fits pattern rest = true := by
  rw [← head_fits, escaped]
  split
  · -- with a backslash in front of it
    rfl
  · next hplain =>
    obtain ⟨hpercent, hunderscore, hbackslash⟩ := not_or.mp hplain |>.imp_right not_or.mp
    rw [List.singleton_append, fits]
    · exact hpercent
    · exact hunderscore
    · exact fun _ _ hc _ => hbackslash hc

/-- **An escaped value** stands for the value, and the rest of the pattern for what comes
behind it. -/
theorem fits_escaped_append (value pattern text : List Char) :
    fits (value.flatMap escaped ++ pattern) text = true ↔
      ∃ rest, text = value ++ rest ∧ fits pattern rest = true := by
  induction value generalizing text with
  | nil => simp
  | cons c value ih =>
    rw [List.flatMap_cons, List.append_assoc, fits_escaped]
    constructor
    · rintro ⟨text', rfl, hfits⟩
      obtain ⟨rest, rfl, hrest⟩ := (ih text').mp hfits
      exact ⟨rest, rfl, hrest⟩
    · rintro ⟨rest, rfl, hrest⟩
      exact ⟨value ++ rest, rfl, (ih _).mpr ⟨rest, rfl, hrest⟩⟩

/-- **Containment.** An escaped value between percent signs stands for the texts in which
the value occurs. -/
theorem fits_enclosed (value text : List Char) :
    fits ('%' :: (value.flatMap escaped ++ ['%'])) text = true ↔ value <:+: text := by
  -- whatever is left behind the value is passed over by the second percent sign
  have hrest : ∀ rest, fits ['%'] rest = true := fun rest =>
    (fits_percent [] rest).mpr ⟨rest, [], (List.append_nil rest).symm, rfl⟩
  rw [fits_percent]
  constructor
  · rintro ⟨front, text', rfl, hfits⟩
    obtain ⟨back, rfl, -⟩ := (fits_escaped_append value ['%'] text').mp hfits
    exact ⟨front, back, List.append_assoc _ _ _⟩
  · rintro ⟨front, back, rfl⟩
    refine ⟨front, value ++ back, List.append_assoc _ _ _, ?_⟩
    exact (fits_escaped_append value ['%'] _).mpr ⟨back, rfl, hrest back⟩

/-! ### The standard escaping -/

/-- Of the keys of the standard escaping, a text starts with one at most. -/
theorem longest?_standard (c : Char) (cs : List Char) :
    LikeEscape.longest? LikeEscape.standard.pairs (c :: cs) =
      if c = '%' ∨ c = '_' ∨ c = '\\' then some ([c], ['\\', c]) else none := by
  simp only [LikeEscape.longest?, LikeEscape.pairs, List.filter_cons, List.isPrefixOf,
    Bool.and_true, beq_iff_eq, List.filter_nil]
  by_cases hpercent : '%' = c
  · subst hpercent
    rfl
  by_cases hunderscore : '_' = c
  · subst hunderscore
    rfl
  by_cases hbackslash : '\\' = c
  · subst hbackslash
    rfl
  simp [hpercent, hunderscore, hbackslash, Ne.symm hpercent, Ne.symm hunderscore,
    Ne.symm hbackslash]

theorem replaceFrom_standard (cs : List Char) :
    LikeEscape.replaceFrom LikeEscape.standard.pairs 0 cs = cs.flatMap escaped := by
  induction cs with
  | nil => rfl
  | cons c cs ih =>
    rw [LikeEscape.replaceFrom, longest?_standard, List.flatMap_cons, ← ih, escaped]
    by_cases hspecial : c = '%' ∨ c = '_' ∨ c = '\\'
    · -- the key is one character long, so nothing is skipped
      rw [if_pos hspecial, if_pos hspecial]
      rfl
    · rw [if_neg hspecial, if_neg hspecial]
      rfl

/-- **The standard escaping** escapes character by character. -/
theorem apply_standard (value : String) :
    LikeEscape.standard.apply value = String.ofList (value.toList.flatMap escaped) := by
  rw [← replaceFrom_standard]
  rfl

end SqlCompose.Wildcard

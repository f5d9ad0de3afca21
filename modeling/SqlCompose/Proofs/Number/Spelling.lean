import Mathlib.Data.List.Induction
import SqlCompose.Number.Read
/-!
# Integers in text

What a text spells is said without reading it from one end to the other with a running total:
`SpellsNat` builds up digits and number side by side, and `SpellsInt` puts a sign in front. The
integers that are read are those that are spelled (`readInt?_eq_some_iff`), so a text spells one
integer at most.
-/

namespace SqlCompose

/-- **Decimal digits that stand for a number**: one digit stands for itself, and one digit more
makes ten times the number, and that digit. -/
inductive SpellsNat : List Char → Nat → Prop
  | digit {k : Nat} (hk : k < 10) : SpellsNat [k.digitChar] k
  | more {ds : List Char} {n k : Nat} (h : SpellsNat ds n) (hk : k < 10) :
      SpellsNat (ds ++ [k.digitChar]) (10 * n + k)

/-- **A text that stands for an integer**: digits, perhaps with a sign in front. -/
inductive SpellsInt : List Char → Int → Prop
  | plain {ds : List Char} {n : Nat} (h : SpellsNat ds n) : SpellsInt ds n
  | plus {ds : List Char} {n : Nat} (h : SpellsNat ds n) : SpellsInt ('+' :: ds) n
  | minus {ds : List Char} {n : Nat} (h : SpellsNat ds n) : SpellsInt ('-' :: ds) (-n)

variable {cs ds : List Char} {n : Nat}

/-! ### Digits -/

theorem digitValue_digitChar (h : n < 10) : digitValue n.digitChar = n := by
  rw [digitValue, Nat.toNat_digitChar_of_lt_ten h]
  exact Nat.add_sub_cancel_left ..

theorem digitChar_digitValue {c : Char} (h : c.isDigit = true) :
    digitValue c < 10 ∧ (digitValue c).digitChar = c := by
  obtain ⟨hge, hle⟩ := Char.isDigit_iff_toNat.mp h
  have hlow : '0'.toNat = 48 := rfl
  have hhigh : '9'.toNat = 57 := rfl
  have hlt : digitValue c < 10 := by
    rw [digitValue]
    omega
  refine ⟨hlt, Char.toNat_inj.mp ?_⟩
  rw [Nat.toNat_digitChar_of_lt_ten hlt, digitValue]
  omega

theorem digitsValue_append_singleton (ds : List Char) (c : Char) :
    digitsValue (ds ++ [c]) = 10 * digitsValue ds + digitValue c := by
  rw [digitsValue, List.foldl_append]
  rfl

/-- The digits that spell a number are those that it is read from. -/
theorem spellsNat_iff :
    SpellsNat ds n ↔ ds ≠ [] ∧ (∀ c ∈ ds, c.isDigit = true) ∧ digitsValue ds = n := by
  constructor
  · intro h
    induction h with
    | @digit k hk =>
      refine ⟨List.cons_ne_nil _ _, fun c hc => ?_, ?_⟩
      · obtain rfl := List.mem_singleton.mp hc
        simpa [Nat.isDigit_digitChar] using hk
      · simpa [digitsValue] using digitValue_digitChar hk
    | @more ds n k _ hk ih =>
      obtain ⟨-, hdigits, hvalue⟩ := ih
      refine ⟨by simp, fun c hc => ?_, ?_⟩
      · rcases List.mem_append.mp hc with hc | hc
        · exact hdigits c hc
        · obtain rfl := List.mem_singleton.mp hc
          simpa [Nat.isDigit_digitChar] using hk
      · rw [digitsValue_append_singleton, hvalue, digitValue_digitChar hk]
  · rintro ⟨hne, hdigits, rfl⟩
    -- the last digit counts once, and all before it ten times
    induction ds using List.reverseRecOn with
    | nil => exact absurd rfl hne
    | append_singleton ds c ih =>
      obtain ⟨hlt, hc⟩ := digitChar_digitValue (hdigits c (by simp))
      rw [digitsValue_append_singleton]
      nth_rewrite 1 [← hc]
      cases ds with
      | nil => simpa [digitsValue] using SpellsNat.digit hlt
      | cons d ds =>
        exact .more (ih (List.cons_ne_nil _ _) fun c hc =>
          hdigits c (List.mem_append_left _ hc)) hlt

theorem SpellsNat.head_isDigit {c : Char} (h : SpellsNat (c :: ds) n) : c.isDigit = true :=
  (spellsNat_iff.mp h).2.1 c (.head _)

/-! ### Signs -/

/-- Digits behind a sign are read as the number that they spell. -/
theorem signed_eq_some_iff {neg : Bool} {m : Int} :
    (if ds.isEmpty || !ds.all Char.isDigit then none
      else some (if neg then -(digitsValue ds : Int) else digitsValue ds)) = some m ↔
      ∃ n, SpellsNat ds n ∧ m = if neg then -(n : Int) else n := by
  constructor
  · intro h
    split at h
    · cases h
    · next hdigits =>
      simp only [Bool.or_eq_true, List.isEmpty_iff, Bool.not_eq_true', not_or,
        Bool.not_eq_false, List.all_eq_true] at hdigits
      exact ⟨_, spellsNat_iff.mpr ⟨hdigits.1, hdigits.2, rfl⟩, (Option.some.inj h).symm⟩
  · rintro ⟨n, h, rfl⟩
    obtain ⟨hne, hdigits, rfl⟩ := spellsNat_iff.mp h
    rw [if_neg]
    simpa [List.isEmpty_iff, List.all_eq_true] using ⟨hne, hdigits⟩

/-- **The integer that is read is the one that is spelled.** -/
theorem readInt?_eq_some_iff {m : Int} : readInt? cs = some m ↔ SpellsInt cs m := by
  have hread : readInt? cs = some m ↔
      ∃ n, SpellsNat (takeSign cs).2 n ∧ m = if (takeSign cs).1 then -(n : Int) else n :=
    signed_eq_some_iff
  rw [hread]
  constructor
  · rintro ⟨n, h, rfl⟩
    revert h
    fun_cases takeSign cs with
    | case1 ds => exact fun h => .minus h
    | case2 ds => exact fun h => .plus h
    | case3 => exact fun h => .plain h
  · rintro (@⟨ds, n, h⟩ | @⟨ds, n, h⟩ | @⟨ds, n, h⟩)
    · -- a sign is no digit
      have hsign : takeSign cs = (false, cs) := by
        fun_cases takeSign cs with
        | case1 ds => exact absurd h.head_isDigit (by decide)
        | case2 ds => exact absurd h.head_isDigit (by decide)
        | case3 => rfl
      rw [hsign]
      exact ⟨n, h, rfl⟩
    · exact ⟨n, h, rfl⟩
    · exact ⟨n, h, rfl⟩

/-- A text spells one integer at most. -/
theorem SpellsInt.unique {m m' : Int} (h : SpellsInt cs m) (h' : SpellsInt cs m') : m = m' :=
  Option.some.inj ((readInt?_eq_some_iff.mpr h).symm.trans (readInt?_eq_some_iff.mpr h'))

end SqlCompose

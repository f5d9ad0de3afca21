import Mathlib.Algebra.Order.Field.Rat
import Mathlib.Tactic.Positivity
import SqlCompose.Number.Binary64
/-!
# The number that bits stand for

The bits of a double-precision number are a sign, eleven bits of a biased exponent and fifty-two of
a fraction, and `Binary64.Represents` says what rational number they stand for. The significand and
the exponent, and the fraction made of them, are this number (`Binary64.represents_iff`); and the
numbers without a fractional part are those that stand for an integer
(`Binary64.represents_int_iff`).
-/

namespace SqlCompose

/-! ### Fractions -/

/-- A fraction is an integer if its denominator divides. -/
theorem div_eq_int_iff {a : ℤ} {b : ℕ} (hb : b ≠ 0) {k : ℤ} :
    (a : ℚ) / b = k ↔ a % b = 0 ∧ a / b = k := by
  have hb' : (b : ℚ) ≠ 0 := Nat.cast_ne_zero.mpr hb
  -- an equation between integers, with nothing to divide
  have hmul : (a : ℚ) / b = k ↔ a = k * b := by
    rw [div_eq_iff hb']
    exact_mod_cast Iff.rfl
  rw [hmul]
  constructor
  · rintro rfl
    exact ⟨Int.mul_emod_left _ _, Int.mul_ediv_cancel _ (Int.natCast_ne_zero.mpr hb)⟩
  · rintro ⟨hmod, rfl⟩
    exact (Int.ediv_mul_cancel (Int.dvd_of_emod_eq_zero hmod)).symm

/-- A significand and an exponent as a fraction. -/
theorem scaledRatio_eq (m : ℕ) (q : ℤ) :
    (scaledRatio m q).2 ≠ 0 ∧ ((scaledRatio m q).1 : ℚ) / (scaledRatio m q).2 = m * 2 ^ q := by
  rw [scaledRatio]
  split
  · next hq =>
    obtain ⟨k, rfl⟩ := Int.eq_ofNat_of_zero_le hq
    refine ⟨Nat.one_ne_zero, ?_⟩
    simp [Nat.pow_eq]
  · next hq =>
    obtain ⟨k, rfl⟩ : ∃ k : ℕ, q = -k := ⟨(-q).toNat, by omega⟩
    refine ⟨by simp [Nat.pow_eq], ?_⟩
    simp [Nat.pow_eq, div_eq_mul_inv]

namespace Binary64

variable {x : Binary64}

/-! ### Bits -/

/-- The highest bit, as a sign. -/
def sign (x : Binary64) : ℚ := if x.bits.toNat / 2 ^ 63 = 1 then -1 else 1

/-- The bits of the biased exponent. -/
def field (x : Binary64) : ℕ := x.bits.toNat / 2 ^ 52 % 2 ^ 11

/-- The bits behind the point of the significand. -/
def fraction (x : Binary64) : ℕ := x.bits.toNat % 2 ^ 52

/-- **The number that the bits of a finite number stand for.** -/
inductive Represents (x : Binary64) : ℚ → Prop
  | subnormal (h : x.field = 0) : Represents x (x.sign * (x.fraction / 2 ^ 52) * 2 ^ (-1022 : ℤ))
  | normal (hnormal : x.field ≠ 0) (hfinite : x.field ≠ 2047) :
      Represents x (x.sign * (1 + x.fraction / 2 ^ 52) * 2 ^ ((x.field : ℤ) - 1023))

theorem pattern_eq : x.pattern = x.field * 2 ^ 52 + x.fraction := by
  have hbits : x.bits.toNat < 2 ^ 64 := x.bits.toNat_lt
  have hsign : FloatFormat.binary64.signBit = 2 ^ 63 := by decide
  rw [pattern, field, fraction, hsign]
  omega

theorem isFinite_iff : x.isFinite = true ↔ x.field ≠ 2047 := by
  have hfield : x.field < 2 ^ 11 := Nat.mod_lt _ (by decide)
  have hfraction : x.fraction < 2 ^ 52 := Nat.mod_lt _ (by decide)
  have hinfinity : FloatFormat.binary64.infinity = 2047 * 2 ^ 52 := by decide
  rw [isFinite, decide_eq_true_iff, pattern_eq, hinfinity]
  omega

theorem sign_eq : x.sign = if x.negative then -1 else 1 := by
  have hbits : x.bits.toNat < 2 ^ 64 := x.bits.toNat_lt
  have hsign : FloatFormat.binary64.signBit = 2 ^ 63 := by decide
  have hiff : x.negative = true ↔ x.bits.toNat / 2 ^ 63 = 1 := by
    rw [negative, decide_eq_true_iff, hsign]
    omega
  rw [sign]
  exact if_congr hiff.symm rfl rfl

/-- The significand and the exponent, from the bits of both. -/
theorem parts_pattern : FloatFormat.binary64.parts x.pattern =
    if x.field = 0 then (x.fraction, -1074)
    else (x.fraction + 2 ^ 52, -1074 + ((x.field : ℤ) - 1)) := by
  have hwidth : Nat.pow 2 FloatFormat.binary64.fractionBits = 2 ^ 52 := by decide
  have hfraction : x.fraction < 2 ^ 52 := Nat.mod_lt _ (by decide)
  have hfield : x.pattern / 2 ^ 52 = x.field := by
    rw [pattern_eq]
    omega
  have hrest : x.pattern % 2 ^ 52 = x.fraction := by
    rw [pattern_eq]
    omega
  rw [FloatFormat.parts, hwidth, hfield, hrest]
  rfl

/-- The point of the significand moved behind its last bit. -/
theorem div_mul_zpow (f : ℚ) (e : ℤ) : f / 2 ^ 52 * 2 ^ (52 + e) = f * 2 ^ e := by
  rw [zpow_add₀ two_ne_zero, zpow_ofNat, ← mul_assoc, div_mul_cancel₀ _ (by positivity)]

/-- **The fraction of a finite number, with its sign, is the number that its bits stand for.** -/
theorem represents_iff {r : ℚ} :
    x.Represents r ↔ x.isFinite = true ∧ r = x.sign * (x.ratio.1 / x.ratio.2) := by
  have hratio : (x.ratio.1 : ℚ) / x.ratio.2 = x.significand * 2 ^ x.exponent :=
    (scaledRatio_eq _ _).2
  rw [isFinite_iff, hratio, significand, exponent, parts_pattern]
  -- only a normal number has the hidden bit in front of its fraction
  by_cases hfield : x.field = 0
  · have hnumber : (x.sign * (x.fraction / 2 ^ 52) * 2 ^ (-1022 : ℤ) : ℚ) =
        x.sign * (x.fraction * 2 ^ (-1074 : ℤ)) := by
      have hexponent : (-1022 : ℤ) = 52 + -1074 := rfl
      rw [mul_assoc, hexponent, div_mul_zpow]
    rw [if_pos hfield, ← hnumber]
    constructor
    · rintro (_ | ⟨hnormal, -⟩)
      · exact ⟨by omega, rfl⟩
      · exact absurd hfield hnormal
    · rintro ⟨-, rfl⟩
      exact .subnormal hfield
  · have hnumber : (x.sign * (1 + x.fraction / 2 ^ 52) * 2 ^ ((x.field : ℤ) - 1023) : ℚ) =
        x.sign * ((x.fraction + 2 ^ 52 : ℕ) * 2 ^ (-1074 + ((x.field : ℤ) - 1))) := by
      have hexponent : (x.field : ℤ) - 1023 = 52 + (-1074 + ((x.field : ℤ) - 1)) := by omega
      have hone : (1 + x.fraction / 2 ^ 52 : ℚ) = (x.fraction + 2 ^ 52 : ℕ) / 2 ^ 52 := by
        rw [Nat.cast_add, Nat.cast_pow, Nat.cast_ofNat, add_div, div_self (by positivity), add_comm]
      rw [mul_assoc, hone, hexponent, div_mul_zpow]
    rw [if_neg hfield, ← hnumber]
    constructor
    · rintro (h | ⟨-, hfinite⟩)
      · exact absurd h hfield
      · exact ⟨hfinite, rfl⟩
    · rintro ⟨hfinite, rfl⟩
      exact .normal hfield hfinite

/-- **The integers among the numbers**, which are those that the fractional part is cut off of
without a change. -/
theorem represents_int_iff {m : ℤ} :
    x.Represents m ↔ x.isIntegral = true ∧ x.truncate = m := by
  have hden : x.ratio.2 ≠ 0 := (scaledRatio_eq _ _).1
  rw [represents_iff, sign_eq, isIntegral, truncate, Bool.and_eq_true, beq_iff_eq, and_assoc]
  refine and_congr_right fun _ => ?_
  -- the sign goes to the other side, and what is left is a fraction that is an integer
  have hint {k : ℤ} : (k : ℚ) = x.ratio.1 / x.ratio.2 ↔
      x.ratio.1 % x.ratio.2 = 0 ∧ ((x.ratio.1 / x.ratio.2 : ℕ) : ℤ) = k := by
    have h := div_eq_int_iff (a := x.ratio.1) hden (k := k)
    rw [Int.cast_natCast] at h
    rw [eq_comm, h, Int.natCast_ediv]
    exact and_congr_left fun _ => by exact_mod_cast Iff.rfl
  cases x.negative with
  | false => simpa using hint
  | true =>
    have h := hint (k := -m)
    rw [Int.cast_neg, neg_eq_iff_eq_neg] at h
    simp only [if_true, neg_one_mul]
    rw [h, neg_eq_iff_eq_neg]

/-- Bits stand for one number at most. -/
theorem Represents.unique {r r' : ℚ} (h : x.Represents r) (h' : x.Represents r') : r = r' :=
  (represents_iff.mp h).2.trans (represents_iff.mp h').2.symm

end Binary64

end SqlCompose

import SqlCompose.Proofs.Number.Exact
import SqlCompose.Proofs.Number.Spelling
import SqlCompose.Proofs.Run.Delivery
/-!
# The integer view of a value

Five kinds of values denote a number (`Value.Denotes`), and at most one each
(`Value.Denotes.unique`). The integer view of a value is this number where it is an integer of 64
bits, and there is no view of a number with a fractional part. An integer out of this range has no
view either, except that of a floating-point number, which is moved to the nearest end of the range
(`Value.Clamped`). `Value.asInt?_eq_some_iff` says so for every value.

The number of rows that a backend counted is read by this view, and `Counted` says what may be read.
-/

namespace SqlCompose

/-! ### The range of 64 bits -/

theorem int64OfInt?_eq_some_iff {m : ℤ} {n : Int64} : int64OfInt? m = some n ↔ n.toInt = m := by
  have hpow : (Nat.pow 2 63 : ℤ) = 2 ^ 63 := by norm_num
  have hge := n.le_toInt
  have hlt := n.toInt_lt
  rw [int64OfInt?, hpow]
  constructor
  · intro h
    split at h
    · next hrange =>
      rw [← Option.some.inj h]
      exact Int64.toInt_ofInt_of_le hrange.1 hrange.2
    · cases h
  · rintro rfl
    rw [if_pos ⟨hge, hlt⟩, Int64.ofInt_toInt]

namespace Value

theorem clampInt64_eq_iff {m : ℤ} {n : Int64} :
    clampInt64 m = n ↔ n.toInt = m ∨ m < -2 ^ 63 ∧ n = Int64.minValue ∨
      2 ^ 63 ≤ m ∧ n = Int64.maxValue := by
  have hpow : (Nat.pow 2 63 : ℤ) = 2 ^ 63 := by norm_num
  have hclamp : (clampInt64 m).toInt = max (-2 ^ 63) (min m (2 ^ 63 - 1)) := by
    rw [clampInt64, hpow]
    exact Int64.toInt_ofInt_of_le (le_max_left _ _) (by omega)
  have hge := n.le_toInt
  have hlt := n.toInt_lt
  rw [← Int64.toInt_inj, ← Int64.toInt_inj, ← Int64.toInt_inj, hclamp, Int64.toInt_minValue,
    Int64.toInt_maxValue]
  omega

/-! ### What a value denotes -/

/-- **The number that a value denotes**: an integer is a number, false and true are zero and one, a
decimal is so many units of its last place, a finite floating-point number is the one that its bits
stand for, and a text is the integer that it spells, with blanks at its ends or without. -/
inductive Denotes : Value → ℚ → Prop
  | int (n : Int64) : Denotes (.int n) n.toInt
  | bool (b : Bool) : Denotes (.bool b) (if b then 1 else 0)
  | decimal (d : Decimal) : Denotes (.decimal d) (d.mantissa / 10 ^ d.scale)
  | float {x : Binary64} {r : ℚ} (h : x.Represents r) : Denotes (.float x) r
  | string {s : String} {m : ℤ} (h : SpellsInt (Text.trim s).toList m) : Denotes (.string s) m

/-- A value denotes one number at most. -/
theorem Denotes.unique {v : Value} {r r' : ℚ} (h : v.Denotes r) (h' : v.Denotes r') : r = r' := by
  cases h with
  | int | bool | decimal => cases h'; rfl
  | float h => cases h' with | float h' => exact h.unique h'
  | string h => cases h' with | string h' => rw [h.unique h']

/-- **An integer moved into the range of 64 bits**, which is done to that of a floating-point number
only: to the end that it is beyond. -/
inductive Clamped : Value → ℤ → Int64 → Prop
  | below {x : Binary64} {m : ℤ} (h : m < -2 ^ 63) : Clamped (.float x) m Int64.minValue
  | above {x : Binary64} {m : ℤ} (h : 2 ^ 63 ≤ m) : Clamped (.float x) m Int64.maxValue

variable {m : ℤ} {n : Int64}

theorem denotes_decimal_iff {d : Decimal} : (decimal d).Denotes m ↔ d.toInt? = some m := by
  have hunit : Nat.pow 10 d.scale ≠ 0 := by simp [Nat.pow_eq]
  have hdiv := div_eq_int_iff (a := d.mantissa) hunit (k := m)
  have hdenotes : (decimal d).Denotes m ↔ (d.mantissa : ℚ) / (Nat.pow 10 d.scale : ℕ) = m := by
    have hcast : ((Nat.pow 10 d.scale : ℕ) : ℚ) = 10 ^ d.scale := by simp [Nat.pow_eq]
    rw [hcast]
    constructor
    · exact fun h => (Denotes.decimal d).unique h
    · exact fun h => h ▸ Denotes.decimal d
  -- the quotient is whole if the division leaves nothing, which is what is asked
  rw [hdenotes, hdiv, Decimal.toInt?]
  split
  · next hmod => rw [and_iff_right hmod, Option.some_inj]
  · next hmod => exact iff_of_false (fun h => hmod h.1) nofun

theorem denotes_float_iff {x : Binary64} :
    (float x).Denotes m ↔ x.isIntegral = true ∧ x.truncate = m := by
  rw [← Binary64.represents_int_iff]
  constructor
  · intro h
    generalize (m : ℚ) = r at h ⊢
    cases h with
    | float h => exact h
  · exact .float

theorem denotes_string_iff {s : String} :
    (string s).Denotes m ↔ readInt? (Text.trimChars s.toList) = some m := by
  have htrim : (Text.trim s).toList = Text.trimChars s.toList := String.toList_ofList
  rw [readInt?_eq_some_iff, ← htrim]
  constructor
  · intro h
    generalize hr : (m : ℚ) = r at h
    cases h with
    | string h => rwa [Int.cast_inj.mp hr]
  · exact .string

/-! ### The view -/

theorem bind_int64OfInt?_eq_some_iff {o : Option ℤ} :
    o.bind int64OfInt? = some n ↔ o = some n.toInt := by
  cases o with
  | none => simp
  | some k => rw [Option.bind_some, int64OfInt?_eq_some_iff, Option.some_inj, eq_comm]

theorem clamped_float_iff {x : Binary64} : (float x).Clamped m n ↔
    m < -2 ^ 63 ∧ n = Int64.minValue ∨ 2 ^ 63 ≤ m ∧ n = Int64.maxValue := by
  constructor
  · rintro (h | h)
    · exact .inl ⟨h, rfl⟩
    · exact .inr ⟨h, rfl⟩
  · rintro (⟨h, rfl⟩ | ⟨h, rfl⟩)
    · exact .below h
    · exact .above h

/-- Where nothing is clamped, the view is what the value denotes. -/
theorem exists_denotes_iff {v : Value} (h : ∀ m, ¬ v.Clamped m n) :
    (∃ m : ℤ, v.Denotes m ∧ (n.toInt = m ∨ v.Clamped m n)) ↔ v.Denotes n.toInt := by
  constructor
  · rintro ⟨m, hm, rfl | hclamped⟩
    · exact hm
    · exact absurd hclamped (h m)
  · exact fun hn => ⟨_, hn, .inl rfl⟩

/-- **The integer view of a value is exact, or clamped.** It is the number that the value denotes,
unless that is of a floating-point number and out of the range of 64 bits; and it is there whenever
the number is an integer of this range, or of a floating-point number. -/
theorem asInt?_eq_some_iff {v : Value} :
    v.asInt? = some n ↔ ∃ m : ℤ, v.Denotes m ∧ (n.toInt = m ∨ v.Clamped m n) := by
  cases v with
  | int k =>
    rw [exists_denotes_iff (fun _ h => by cases h), asInt?, Option.some_inj]
    constructor
    · rintro rfl
      exact .int k
    · intro h
      exact Int64.toInt_inj.mp (Int.cast_inj.mp ((Denotes.int k).unique h))
  | bool b =>
    -- the number and the view are two readings of one case split
    have hview : (if b then 1 else 0 : ℚ) = (if b then 1 else 0 : Int64).toInt := by
      cases b <;> simp
    rw [exists_denotes_iff (fun _ h => by cases h), asInt?, Option.some_inj]
    constructor
    · rintro rfl
      exact hview ▸ .bool b
    · intro h
      exact Int64.toInt_inj.mp (Int.cast_inj.mp (hview.symm.trans ((Denotes.bool b).unique h)))
  | decimal d =>
    rw [exists_denotes_iff (fun _ h => by cases h), asInt?, bind_int64OfInt?_eq_some_iff,
      denotes_decimal_iff]
  | string s =>
    rw [exists_denotes_iff (fun _ h => by cases h), asInt?, readInt64?,
      bind_int64OfInt?_eq_some_iff, denotes_string_iff]
  | float x =>
    -- the only view that may be clamped: the fractional part is looked at, but not the range
    rw [asInt?]
    constructor
    · intro h
      split at h
      · next hintegral =>
        refine ⟨x.truncate, denotes_float_iff.mpr ⟨hintegral, rfl⟩, ?_⟩
        rw [clamped_float_iff]
        exact clampInt64_eq_iff.mp (Option.some.inj h)
      · cases h
    · rintro ⟨m, hm, hn⟩
      obtain ⟨hintegral, rfl⟩ := denotes_float_iff.mp hm
      rw [clamped_float_iff] at hn
      rw [if_pos hintegral, clampInt64_eq_iff.mpr hn]
  | _ => exact ⟨nofun, fun ⟨_, h, _⟩ => nomatch h⟩

/-- An integer of 64 bits that a value denotes is its view. -/
theorem exists_asInt?_of_denotes {v : Value} (h : v.Denotes m) (hge : -2 ^ 63 ≤ m)
    (hlt : m < 2 ^ 63) : ∃ n : Int64, v.asInt? = some n ∧ n.toInt = m := by
  have hn : (Int64.ofInt m).toInt = m := Int64.toInt_ofInt_of_le hge hlt
  exact ⟨_, asInt?_eq_some_iff.mpr ⟨m, h, .inl hn⟩, hn⟩

end Value

/-! ### Counting -/

theorem exists_of_map_eq_ok {ε α β : Type} {x : Except ε α} {f : α → β} {b : β}
    (h : x.map f = .ok b) : ∃ a, x = .ok a ∧ f a = b := by
  cases x with
  | error e => cases h
  | ok a => exact ⟨a, rfl, Except.ok.inj h⟩

/-- **What is counted in a result**: no value, or null, is zero; any other value is the number that
it denotes, or the end of the range that this is beyond. -/
inductive Counted : Option Value → Int64 → Prop
  | nothing : Counted none 0
  | null : Counted (some .null) 0
  | value {v : Value} {m : ℤ} {n : Int64} (h : v.Denotes m) (hn : n.toInt = m ∨ v.Clamped m n) :
      Counted (some v) n

theorem readCount_of_asInt? {v : Value} {n : Int64} (h : v.asInt? = some n) :
    Access.readCount (some v) = .ok n := by
  have hnull : v ≠ .null := by
    rintro rfl
    cases h
  rw [Access.readCount, h]
  exact hnull

/-- **The number of rows that is read** is the one that is counted, and there is none else. -/
theorem readCount_eq_ok_iff {o : Option Value} {n : Int64} :
    Access.readCount o = .ok n ↔ Counted o n := by
  constructor
  · intro h
    revert h
    fun_cases Access.readCount o with
    | case1 => exact fun h => Except.ok.inj h ▸ .nothing
    | case2 => exact fun h => Except.ok.inj h ▸ .null
    | case3 v _ k hview =>
      intro h
      obtain rfl := Except.ok.inj h
      obtain ⟨m, hm, hk⟩ := Value.asInt?_eq_some_iff.mp hview
      exact .value hm hk
    | case4 => exact nofun
  · intro h
    cases h with
    | nothing => rfl
    | null => rfl
    | value hm hn => exact readCount_of_asInt? (Value.asInt?_eq_some_iff.mpr ⟨_, hm, hn⟩)

namespace Connection

/-- **A count is what the backend has counted.** -/
theorem counted_of_ask {c : Connection} {backend : Backend} {q : Query} {expr : String} {t : Trace}
    {n : Int64} (h : (c.ask backend q (.count expr) t).1 = .ok (.number n)) :
    ∃ s r, c.statement ⟨q, .count expr⟩ = .ok s ∧ (backend t.sent s).result = .ok r ∧
      Counted r.firstValue? n := by
  obtain ⟨sent, -, hserves⟩ := c.serves_ask backend ⟨q, .count expr⟩ t
  rw [h] at hserves
  generalize hanswer : (Except.ok (Answer.number n) : Except Error Answer) = answer at hserves
  cases hserves with
  | refused | late | failed => cases hanswer
  | @answered s r hstatement _ hresult =>
    -- only an answer that came in time is read
    refine ⟨s, r, hstatement, hresult, readCount_eq_ok_iff.mp ?_⟩
    have hread : (Access.readCount r.firstValue?).map Answer.number = .ok (.number n) :=
      hanswer.symm
    obtain ⟨k, hk, hnumber⟩ := exists_of_map_eq_ok hread
    rw [hk, Answer.number.inj hnumber]

end Connection

namespace Value

/-- **The integer view is the number that a value denotes**, and there is one for every integer of
64 bits. A number of rows is what the backend has counted. In both, a floating-point number may be
out of the range of 64 bits, and is moved to the end of it. -/
theorem integer_view (v : Value) (n : Int64) (c : Connection) (backend : Backend) (q : Query)
    (expr : String) (t : Trace) :
    (v.asInt? = some n ↔ ∃ m : ℤ, v.Denotes m ∧ (n.toInt = m ∨ v.Clamped m n)) ∧
      (∀ m : ℤ, v.Denotes m → -2 ^ 63 ≤ m → m < 2 ^ 63 →
        ∃ k : Int64, v.asInt? = some k ∧ k.toInt = m) ∧
      ((c.ask backend q (.count expr) t).1 = .ok (.number n) →
        ∃ s r, c.statement ⟨q, .count expr⟩ = .ok s ∧ (backend t.sent s).result = .ok r ∧
          Counted r.firstValue? n) :=
  ⟨asInt?_eq_some_iff, fun _ => exists_asInt?_of_denotes, Connection.counted_of_ask⟩

/-- A decimal with places, and a number of rows that is sent as text. -/
theorem integer_view_seven :
    let d : Decimal := ⟨700, 2, by decide, by decide⟩
    let c : Connection := { dialect := Dialect.postgres }
    let backend : Backend := fun _ _ => { result := .ok { rows := [⟨[("n", .string " 42 ")]⟩] } }
    let q : Query := ⟨{ tables := [.bare "t"] }⟩
    (decimal d).Denotes (7 : ℤ) ∧ (∃ k : Int64, (decimal d).asInt? = some k ∧ k.toInt = 7) ∧
      (c.ask backend q (.count "*") {}).1 = .ok (.number 42) ∧
        Counted (some (.string " 42 ")) 42 := by
  intro d c backend q
  have hseven : (decimal d).Denotes (7 : ℤ) := denotes_decimal_iff.mpr (by decide)
  have hsql : (c.statement ⟨q, .count "*"⟩).map (·.sql) = .ok "SELECT COUNT(*) FROM \x22t\x22" := by
    decide +kernel
  obtain ⟨s, hs, -⟩ := exists_of_map_eq_ok hsql
  have hask : (c.ask backend q (.count "*") {}).1 = .ok (.number 42) :=
    (Connection.ask_of_ok backend hs {}).1.trans rfl
  obtain ⟨-, hview, hcount⟩ := integer_view (decimal d) 42 c backend q "*" {}
  obtain ⟨_, r, -, hresult, hcounted⟩ := hcount hask
  obtain rfl := Except.ok.inj hresult
  exact ⟨hseven, hview 7 hseven (by decide) (by decide), hask, hcounted⟩

/-- The number `2 ^ 64` has a view, and that is another number. -/
theorem float_clamped :
    (float ⟨0x43F0000000000000⟩).asInt? = some Int64.maxValue ∧
      (float ⟨0x43F0000000000000⟩).Denotes (2 ^ 64 : ℤ) ∧
        ¬ (float ⟨0x43F0000000000000⟩).Denotes Int64.maxValue.toInt := by
  have hdenotes : (float ⟨0x43F0000000000000⟩).Denotes (2 ^ 64 : ℤ) :=
    denotes_float_iff.mpr ⟨by decide, by decide⟩
  refine ⟨by decide, hdenotes, fun h => ?_⟩
  -- it denotes one number only, and the view is not this one
  have hsame := Int.cast_inj.mp (h.unique hdenotes)
  exact absurd hsame (by decide)

end Value

end SqlCompose

import Mathlib.Data.Finset.Card
import Mathlib.Data.List.Nodup
import SqlCompose.Params.Allocator
/-!
# What an allocator does

Binding a value takes the least number from the counter on whose name is free
(`Allocator.next_le_free`, `Allocator.taken_of_lt_free`,
`Allocator.placeholderName_free`). A map with `k` entries cannot take `k + 1` names, so
the search always ends at one.

`Allocator.Grows` is what any run of bindings leaves true, however long: the entries
are the old ones with the new ones behind them, under names that were free and whose
numbers increase. `Allocator.grows_bind` is one step and `Allocator.Grows.trans` puts
runs together.
-/

namespace SqlCompose

/-- Different numbers have different placeholders. -/
theorem placeholderName_injective : Function.Injective placeholderName := by
  intro m n h
  have hdigits : Nat.toDigits 10 m = Nat.toDigits 10 n := by
    have := congrArg String.toList h
    simpa [placeholderName, Nat.toString_eq_repr, Nat.toList_repr] using this
  -- a number can be read back from its digits
  rw [← Nat.ofDigitChars_toDigits (by decide : 1 < 10) le_rfl (n := m), hdigits,
    Nat.ofDigitChars_toDigits (by decide) le_rfl]

/-- The placeholders of increasing numbers are distinct. -/
theorem nodup_map_placeholderName {ns : List Nat} (h : ns.Pairwise (· < ·)) :
    (ns.map placeholderName).Nodup :=
  List.Nodup.map placeholderName_injective (h.imp Nat.ne_of_lt)

namespace Params

theorem contains_eq_true_iff (p : Params) (name : String) :
    p.contains name = true ↔ name ∈ p.keys := by
  simp [contains, keys]

/-- A new name comes last. -/
theorem entries_insert_of_notMem {p : Params} {name : String} (value : Value)
    (h : name ∉ p.keys) : (p.insert name value).entries = p.entries ++ [(name, value)] := by
  obtain ⟨entries⟩ := p
  simp only [insert, keys] at h ⊢
  induction entries with
  | nil => rfl
  | cons e rest ih =>
    rw [List.map_cons, List.mem_cons, not_or] at h
    rw [insertEntry, if_neg (Ne.symm h.1), ih h.2, List.cons_append]

/-- Under distinct names a look-up finds the value of every entry. -/
theorem get?_of_mem {p : Params} (h : p.keys.Nodup) {e : String × Value}
    (he : e ∈ p.entries) : p.get? e.1 = some e.2 := by
  obtain ⟨entries⟩ := p
  simp only [keys, get?] at h ⊢
  induction entries with
  | nil => exact absurd he List.not_mem_nil
  | cons e' rest ih =>
    obtain ⟨hnew, hrest⟩ := List.nodup_cons.mp h
    -- the first entry with the name is found, and no other has it
    rcases List.mem_cons.mp he with rfl | hmem
    · rw [List.find?_cons_of_pos (by simp)]
      rfl
    · have hne : e'.1 ≠ e.1 := fun heq => hnew (List.mem_map.mpr ⟨e, hmem, heq.symm⟩)
      rw [List.find?_cons_of_neg (by simpa using hne)]
      exact ih hrest hmem

end Params

namespace Allocator

/-! ### One binding -/

theorem le_firstFree (taken : Nat → Bool) (tries n : Nat) : n ≤ firstFree taken tries n := by
  induction tries generalizing n with
  | zero => exact le_rfl
  | succ tries ih =>
    rw [firstFree]
    split
    · exact (Nat.le_succ n).trans (ih (n + 1))
    · exact le_rfl

/-- Everything that the search passes over is taken. -/
theorem taken_of_lt_firstFree {taken : Nat → Bool} {tries n m : Nat} (hm : n ≤ m)
    (h : m < firstFree taken tries n) : taken m = true := by
  induction tries generalizing n with
  | zero => exact absurd h (Nat.not_lt.mpr hm)
  | succ tries ih =>
    rw [firstFree] at h
    split at h
    · next hn =>
      -- the number itself was taken, or the search went on in front of `m`
      rcases Nat.eq_or_lt_of_le hm with rfl | hlt
      · exact hn
      · exact ih hlt h
    · exact absurd h (Nat.not_lt.mpr hm)

/-- The search stops in front of its bound only at a free number. -/
theorem firstFree_eq_add_or (taken : Nat → Bool) (tries n : Nat) :
    firstFree taken tries n = n + tries ∨ taken (firstFree taken tries n) = false := by
  induction tries generalizing n with
  | zero => exact Or.inl rfl
  | succ tries ih =>
    rw [firstFree]
    split
    · rcases ih (n + 1) with h | h
      · exact Or.inl (by omega)
      · exact Or.inr h
    · next hn => exact Or.inr (by simpa using hn)

/-- Among more numbers than a map has entries there is one whose name is free. -/
theorem exists_notMem_keys (p : Params) (n : Nat) :
    ∃ m, n ≤ m ∧ m ≤ n + p.size ∧ placeholderName m ∉ p.keys := by
  by_contra hc
  push Not at hc
  -- if all these names were keys, there would be more keys than entries
  have hinj : Function.Injective fun i => placeholderName (n + i) := fun i j h =>
    Nat.add_left_cancel (placeholderName_injective h)
  have hsub : (Finset.range (p.size + 1)).image (fun i => placeholderName (n + i)) ⊆
      p.keys.toFinset := by
    intro name h
    obtain ⟨i, hi, rfl⟩ := Finset.mem_image.mp h
    have hi' := Finset.mem_range.mp hi
    exact List.mem_toFinset.mpr (hc (n + i) (by omega) (by omega))
  have hcard := Finset.card_le_card hsub
  rw [Finset.card_image_of_injective _ hinj, Finset.card_range] at hcard
  have hkeys := List.toFinset_card_le p.keys
  rw [Params.keys, List.length_map] at hkeys
  exact absurd (hcard.trans hkeys) (by simp [Params.size])

variable (a : Allocator)

theorem next_le_free : a.next ≤ a.free := le_firstFree _ _ _

theorem taken_of_lt_free {m : Nat} (hm : a.next ≤ m) (h : m < a.free) :
    placeholderName m ∈ a.params.keys :=
  (a.params.contains_eq_true_iff _).mp (taken_of_lt_firstFree hm h)

/-- The number that is found has a free name. -/
theorem placeholderName_free : placeholderName a.free ∉ a.params.keys := by
  intro hmem
  rcases firstFree_eq_add_or (fun n => a.params.contains (placeholderName n)) a.params.size
    a.next with h | h
  · -- the bound was reached, so all numbers up to it are taken
    obtain ⟨m, hm, hle, hfree⟩ := exists_notMem_keys a.params a.next
    rcases Nat.eq_or_lt_of_le (hle.trans (Nat.le_of_eq h.symm)) with rfl | hlt
    · exact hfree hmem
    · exact hfree (a.taken_of_lt_free hm hlt)
  · exact absurd ((a.params.contains_eq_true_iff _).mpr hmem) (by simpa [free] using h)

theorem bind_fst (v : Value) : (a.bind v).1 = placeholderName a.free := rfl

theorem bind_snd_next (v : Value) : (a.bind v).2.next = a.free + 1 := rfl

theorem bind_snd_entries (v : Value) :
    (a.bind v).2.params.entries = a.params.entries ++ [(placeholderName a.free, v)] :=
  Params.entries_insert_of_notMem v a.placeholderName_free

/-! ### Runs of bindings -/

/-- **A run of bindings** from `a` to `a'`, which has given the numbers `ns` to the values
`vs`. -/
structure Grows (a a' : Allocator) (ns : List Nat) (vs : List Value) : Prop where
  /-- The old entries stay in place, and the new ones come behind them. -/
  entries : a'.params.entries = a.params.entries ++ (ns.map placeholderName).zip vs
  /-- Every value has a number. -/
  length : ns.length = vs.length
  increasing : ns.Pairwise (· < ·)
  /-- No name was there before. -/
  fresh : ∀ n ∈ ns, placeholderName n ∉ a.params.keys
  next_le : ∀ n ∈ ns, a.next ≤ n
  lt_next : ∀ n ∈ ns, n < a'.next
  /-- The counter only moves forward. -/
  forward : a.next ≤ a'.next

/-- A run without bindings. -/
theorem Grows.refl : a.Grows a [] [] :=
  ⟨by simp, rfl, .nil, by simp, by simp, by simp, le_rfl⟩

variable {a} {a' a'' : Allocator} {ns ns' : List Nat} {vs vs' : List Value}

/-- A run behind a run. -/
theorem Grows.trans (h : a.Grows a' ns vs) (h' : a'.Grows a'' ns' vs') :
    a.Grows a'' (ns ++ ns') (vs ++ vs') := by
  have hkeys : a.params.keys ⊆ a'.params.keys := by
    rw [Params.keys, Params.keys, h.entries, List.map_append]
    exact List.subset_append_left _ _
  refine ⟨?_, ?_, ?_, ?_, ?_, ?_, h.forward.trans h'.forward⟩
  · rw [h'.entries, h.entries, List.append_assoc, List.map_append,
      List.zip_append (by rw [List.length_map, h.length])]
  · rw [List.length_append, List.length_append, h.length, h'.length]
  · -- the second run starts at the counter that the first has reached
    refine List.pairwise_append.mpr ⟨h.increasing, h'.increasing, fun m hm n hn => ?_⟩
    exact (h.lt_next m hm).trans_le (h'.next_le n hn)
  · intro n hn
    rcases List.mem_append.mp hn with hn | hn
    · exact h.fresh n hn
    · -- a name that was there before the first run is still there before the second
      exact fun hmem => h'.fresh n hn (hkeys hmem)
  · intro n hn
    rcases List.mem_append.mp hn with hn | hn
    · exact h.next_le n hn
    · exact h.forward.trans (h'.next_le n hn)
  · intro n hn
    rcases List.mem_append.mp hn with hn | hn
    · exact (h.lt_next n hn).trans_le h'.forward
    · exact h'.lt_next n hn

/-- A run of bindings keeps the names distinct. -/
theorem Grows.nodup_keys (h : a.Grows a' ns vs) (ha : a.params.keys.Nodup) :
    a'.params.keys.Nodup := by
  have hkeys : a'.params.keys = a.params.keys ++ ns.map placeholderName := by
    rw [Params.keys, h.entries, List.map_append]
    refine congrArg (a.params.keys ++ ·) (List.map_fst_zip ?_)
    rw [List.length_map, h.length]
  rw [hkeys]
  refine ha.append ?_ ?_
  · exact nodup_map_placeholderName h.increasing
  · intro name hname hnew
    obtain ⟨n, hn, rfl⟩ := List.mem_map.mp hnew
    exact h.fresh n hn hname

/-- Behind a run of bindings a look-up finds the values that were bound. -/
theorem Grows.get?_eq (h : a.Grows a' ns vs) {e : String × Value}
    (he : e ∈ (ns.map placeholderName).zip vs) : a'.params.get? e.1 = some e.2 := by
  have hname : e.1 ∈ ns.map placeholderName := (List.of_mem_zip he).1
  -- no old entry has the name, so the look-up goes on to the new ones
  have hold : a.params.entries.find? (·.1 == e.1) = none := by
    obtain ⟨n, hn, heq⟩ := List.mem_map.mp hname
    refine List.find?_eq_none.mpr fun e' he' hsame => h.fresh n hn ?_
    rw [heq, ← beq_iff_eq.mp hsame]
    exact List.mem_map_of_mem he'
  have hnew : (Params.mk ((ns.map placeholderName).zip vs)).get? e.1 = some e.2 := by
    refine Params.get?_of_mem ?_ he
    change (((ns.map placeholderName).zip vs).map Prod.fst).Nodup
    rw [List.map_fst_zip (by rw [List.length_map, h.length])]
    exact nodup_map_placeholderName h.increasing
  rw [Params.get?, h.entries, List.find?_append, hold, Option.none_or]
  exact hnew

/-- One binding is a run. -/
theorem grows_bind (a : Allocator) (v : Value) : a.Grows (a.bind v).2 [a.free] [v] := by
  refine ⟨a.bind_snd_entries v, rfl, List.pairwise_singleton _ _, ?_, ?_, ?_, ?_⟩
  · rintro n hn
    rw [List.mem_singleton.mp hn]
    exact a.placeholderName_free
  · rintro n hn
    rw [List.mem_singleton.mp hn]
    exact a.next_le_free
  · rintro n hn
    rw [List.mem_singleton.mp hn, bind_snd_next]
    exact Nat.lt_succ_self _
  · rw [bind_snd_next]
    exact a.next_le_free.trans (Nat.le_succ _)

/-- Several bindings are a run, and their names are those of the numbers in order. -/
theorem exists_grows_bindAll (a : Allocator) (vs : List Value) :
    ∃ ns, a.Grows (a.bindAll vs).2 ns vs ∧ (a.bindAll vs).1 = ns.map placeholderName := by
  induction vs generalizing a with
  | nil => exact ⟨[], .refl a, rfl⟩
  | cons v vs ih =>
    obtain ⟨ns, hgrows, hnames⟩ := ih (a.bind v).2
    refine ⟨a.free :: ns, (a.grows_bind v).trans hgrows, ?_⟩
    rw [List.map_cons, ← hnames]
    rfl

end Allocator

end SqlCompose

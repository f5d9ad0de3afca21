import Mathlib.Logic.Function.Iterate
import Mathlib.Order.Bounds.Basic
import SqlCompose.Proofs.Params.Allocation
/-!
# The search for a free name

To bind a value, one name after the other is tried, from the counter on, until one is free.
Nothing in the search itself bounds it, so here it is taken turn by turn: `Allocator.Search` is
where it stands and `Allocator.Search.turn` is one turn, which may be repeated for ever.

It is not, whatever the map holds. The search is still on as long as all the names it has tried
are taken (`Allocator.Search.iterate_of_taken`), and a map cannot take more names than it has
entries (`Allocator.free_le_add_size`). So one turn more than there are entries is enough, and what
the search ends with is the least free number (`Allocator.isLeast_free`,
`Allocator.Search.iterate_of_free`), the one that `Allocator.bind` uses.
-/

namespace SqlCompose

namespace Allocator

/-- Where a search for a free name stands. -/
inductive Search
  /-- The name of a number is tried next. -/
  | trying (next : Nat)
  /-- A name was free, and the counter stands behind its number. -/
  | found (name : String) (next : Nat)

namespace Search

/-- **One turn of the search**: a name is formed, the counter moves on, and if the name is free
the search is over. -/
def turn (p : Params) : Search → Search
  | trying n =>
    if p.contains (placeholderName n) then trying (n + 1) else found (placeholderName n) (n + 1)
  | found name next => found name next

variable {p : Params} {n : Nat}

theorem turn_of_taken (h : placeholderName n ∈ p.keys) : turn p (trying n) = trying (n + 1) :=
  if_pos ((p.contains_eq_true_iff _).mpr h)

theorem turn_of_free (h : placeholderName n ∉ p.keys) :
    turn p (trying n) = found (placeholderName n) (n + 1) :=
  if_neg (mt (p.contains_eq_true_iff _).mp h)

/-- As long as names are taken, the search goes on to the next one. -/
theorem iterate_of_taken {k : Nat} (h : ∀ m, n ≤ m → m < n + k → placeholderName m ∈ p.keys) :
    (turn p)^[k] (trying n) = trying (n + k) := by
  induction k with
  | zero => rfl
  | succ k ih =>
    have htaken : placeholderName (n + k) ∈ p.keys := h (n + k) (by omega) (by omega)
    have hbefore : (turn p)^[k] (trying n) = trying (n + k) :=
      ih fun m hm hlt => h m hm (by omega)
    calc (turn p)^[k + 1] (trying n)
      _ = turn p ((turn p)^[k] (trying n)) := Function.iterate_succ_apply' _ _ _
      _ = turn p (trying (n + k)) := by rw [hbefore]
      _ = trying (n + (k + 1)) := turn_of_taken htaken

/-- The search is over behind the first free name. -/
theorem iterate_of_free {k : Nat} (htaken : ∀ m, n ≤ m → m < n + k → placeholderName m ∈ p.keys)
    (hfree : placeholderName (n + k) ∉ p.keys) :
    (turn p)^[k + 1] (trying n) = found (placeholderName (n + k)) (n + k + 1) := by
  rw [Function.iterate_succ_apply', iterate_of_taken htaken]
  exact turn_of_free hfree

end Search

variable (a : Allocator)

/-- **The number that is found is the least free one** from the counter on. -/
theorem isLeast_free : IsLeast {m | a.next ≤ m ∧ placeholderName m ∉ a.params.keys} a.free := by
  refine ⟨⟨a.next_le_free, a.placeholderName_free⟩, ?_⟩
  rintro m ⟨hm, hfree⟩
  by_contra hlt
  -- the search would have passed over `m`, which is free
  exact hfree (a.taken_of_lt_free hm (Nat.lt_of_not_le hlt))

/-- It is no further from the counter than the map has entries. -/
theorem free_le_add_size : a.free ≤ a.next + a.params.size := by
  obtain ⟨m, hm, hle, hfree⟩ := exists_notMem_keys a.params a.next
  exact Nat.le_trans (a.isLeast_free.2 ⟨hm, hfree⟩) hle

/-- Under its name the value comes last, and everything else is as before. -/
theorem bind_eq (v : Value) :
    a.bind v = (placeholderName a.free,
      ⟨⟨a.params.entries ++ [(placeholderName a.free, v)]⟩, a.free + 1⟩) := by
  have hparams : a.params.insert (placeholderName a.free) v =
      ⟨a.params.entries ++ [(placeholderName a.free, v)]⟩ :=
    congrArg Params.mk (a.bind_snd_entries v)
  change (placeholderName a.free, Allocator.mk _ _) = _
  rw [hparams]

/-- **The search for a name ends**, after no more turns than the map has entries and one, whatever
names the map holds and wherever the counter stands. The least free number gets the value, as the
last entry of the map, and the counter stands behind it. -/
theorem bind_least_free (v : Value) :
    ∃ n turns : Nat, IsLeast {m | a.next ≤ m ∧ ":qp" ++ toString m ∉ a.params.keys} n ∧
      turns ≤ a.params.size + 1 ∧ n + 1 = a.next + turns ∧
      (∀ k < turns, (Search.turn a.params)^[k] (.trying a.next) = .trying (a.next + k)) ∧
      (Search.turn a.params)^[turns] (.trying a.next) = .found (":qp" ++ toString n) (n + 1) ∧
      a.bind v = (":qp" ++ toString n,
        ⟨⟨a.params.entries ++ [(":qp" ++ toString n, v)]⟩, n + 1⟩) := by
  obtain ⟨k, hk⟩ := Nat.exists_eq_add_of_le a.next_le_free
  have hbound : a.free ≤ a.next + a.params.size := a.free_le_add_size
  have htaken : ∀ m, a.next ≤ m → m < a.next + k → placeholderName m ∈ a.params.keys :=
    fun m hm hlt => a.taken_of_lt_free hm (hk ▸ hlt)
  refine ⟨a.free, k + 1, a.isLeast_free, by omega, by omega, ?_, ?_, a.bind_eq v⟩
  · intro j hj
    exact Search.iterate_of_taken fun m hm hlt => htaken m hm (by omega)
  · have hfree : placeholderName (a.next + k) ∉ a.params.keys := hk ▸ a.placeholderName_free
    rw [Search.iterate_of_free htaken hfree, ← hk]
    rfl

end Allocator

end SqlCompose

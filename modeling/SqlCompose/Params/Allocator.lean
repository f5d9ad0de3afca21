import SqlCompose.Params.Basic
/-!
# Placeholder names

An `Allocator` binds values to fresh placeholders `:qp0`, `:qp1`, … Its counter starts
at the size of the map it begins with and only moves forward; a name that is taken is
passed over, so that no value is ever bound over another.
-/

namespace SqlCompose

/-- The placeholder with a number. -/
def placeholderName (n : Nat) : String := ":qp" ++ toString n

/-- A map of parameters that is being added to. -/
structure Allocator where
  params : Params
  /-- The next number to try. -/
  next : Nat

namespace Allocator

/-- An allocator over the given parameters. -/
def new (params : Params) : Allocator := ⟨params, params.size⟩

/-- The first of the numbers `n`, `n + 1`, … that is free, found within `tries` steps
and the last of them otherwise. -/
def firstFree (taken : Nat → Bool) : Nat → Nat → Nat
  | 0, n => n
  | tries + 1, n => if taken n then firstFree taken tries (n + 1) else n

/-- The least free number from the counter on. A map has no more taken names than
entries, so as many steps as it has entries suffice. -/
def free (a : Allocator) : Nat :=
  firstFree (fun n => a.params.contains (placeholderName n)) a.params.size a.next

/-- Binds a value to a fresh placeholder: its name, and the allocator afterwards. -/
def bind (a : Allocator) (value : Value) : String × Allocator :=
  let n := a.free
  (placeholderName n, ⟨a.params.insert (placeholderName n) value, n + 1⟩)

/-- Binds values one after the other: their names, and the allocator afterwards. -/
def bindAll (a : Allocator) : List Value → List String × Allocator
  | [] => ([], a)
  | v :: vs =>
    let (name, a) := a.bind v
    let (names, a) := a.bindAll vs
    (name :: names, a)

end Allocator

end SqlCompose

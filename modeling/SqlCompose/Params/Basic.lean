import SqlCompose.Value.Basic
/-!
# Parameters

`Params` maps the names of placeholders to values, in the order in which the names
came in. A name that is inserted again keeps its place and takes the new value, so a
merge of two maps has the order of the first mention and the value of the last.

The order of names after an insertion is `keys_insert`, and what a look-up finds after
it is `get?_insert`; after a removal these are `keys_erase`, `get?_erase_self` and
`get?_erase_of_ne`.
-/

namespace SqlCompose

/-- Values by placeholder name, in order of insertion. -/
structure Params where
  entries : List (String × Value) := []

namespace Params

/-- No parameters. -/
def empty : Params := ⟨[]⟩

/-- The number of names. -/
def size (p : Params) : Nat := p.entries.length

/-- Whether there are no parameters. -/
def isEmpty (p : Params) : Bool := p.entries.isEmpty

/-- The names, in order. -/
def keys (p : Params) : List String := p.entries.map (·.1)

/-- The value of a name. -/
def get? (p : Params) (name : String) : Option Value :=
  (p.entries.find? (·.1 == name)).map (·.2)

/-- Whether a name has a value. -/
def contains (p : Params) (name : String) : Bool :=
  p.entries.any (·.1 == name)

/-- Entries in which a name has a new value: in its place, or at the end. -/
def insertEntry (name : String) (value : Value) : List (String × Value) → List (String × Value)
  | [] => [(name, value)]
  | e :: rest => if e.1 = name then (name, value) :: rest else e :: insertEntry name value rest

/-- Gives a name a value, in the place of an earlier one. -/
def insert (p : Params) (name : String) (value : Value) : Params :=
  ⟨insertEntry name value p.entries⟩

/-- Entries without the first of a name. -/
def removeEntry (name : String) : List (String × Value) → List (String × Value)
  | [] => []
  | e :: rest => if e.1 = name then rest else e :: removeEntry name rest

/-- Takes a name and its value out. -/
def erase (p : Params) (name : String) : Params :=
  ⟨removeEntry name p.entries⟩

/-- Inserts entries one after the other. -/
def insertMany (p : Params) (entries : List (String × Value)) : Params :=
  entries.foldl (fun p e => p.insert e.1 e.2) p

/-- The parameters of entries inserted one after the other. -/
def ofList (entries : List (String × Value)) : Params :=
  empty.insertMany entries

/-- Both maps together; the values of the second win. -/
def merge (p q : Params) : Params :=
  p.insertMany q.entries

@[simp] theorem get?_empty (name : String) : empty.get? name = none := rfl

/-- An insertion changes the names only if the name is new, which then comes last. -/
theorem keys_insert (p : Params) (name : String) (value : Value) :
    (p.insert name value).keys = if name ∈ p.keys then p.keys else p.keys ++ [name] := by
  obtain ⟨entries⟩ := p
  simp only [insert, keys]
  induction entries with
  | nil => simp [insertEntry]
  | cons e rest ih =>
    by_cases h : e.1 = name
    · simp [insertEntry, h]
    · have h' : name ≠ e.1 := fun he => h he.symm
      simp only [insertEntry, if_neg h, List.map_cons, ih, List.mem_cons, h', false_or]
      split <;> simp_all

/-- After an insertion a look-up finds the new value under the name, and under every
other name what it found before. -/
theorem get?_insert (p : Params) (name : String) (value : Value) (k : String) :
    (p.insert name value).get? k = if k = name then some value else p.get? k := by
  obtain ⟨entries⟩ := p
  simp only [insert, get?]
  induction entries with
  | nil =>
    by_cases h : k = name
    · simp [insertEntry, h]
    · simp [insertEntry, h, Ne.symm h]
  | cons e rest ih =>
    -- the entry may have the name that is inserted, the one that is looked up, both, or neither
    by_cases h : e.1 = name
    · by_cases hk : k = name
      · simp [insertEntry, h, hk]
      · simp [insertEntry, h, hk, Ne.symm hk]
    · by_cases hk : e.1 = k
      · subst hk; simp [insertEntry, h]
      · simp only [insertEntry, if_neg h]
        rw [List.find?_cons_of_neg (by simpa using hk), ih,
          List.find?_cons_of_neg (by simpa using hk)]

/-- A look-up finds nothing only under a name that is not there. -/
theorem get?_eq_none_iff {p : Params} {name : String} : p.get? name = none ↔ name ∉ p.keys := by
  rw [get?, Option.map_eq_none_iff, List.find?_eq_none, keys, List.mem_map]
  constructor
  · rintro h ⟨e, he, rfl⟩
    exact h e he (beq_self_eq_true _)
  · intro h e he hname
    exact h ⟨e, he, beq_iff_eq.mp hname⟩

/-- A removal takes a name out of the names, and the others keep their order. -/
theorem keys_erase (p : Params) (name : String) : (p.erase name).keys = p.keys.erase name := by
  obtain ⟨entries⟩ := p
  simp only [erase, keys]
  induction entries with
  | nil => rfl
  | cons e rest ih =>
    by_cases h : e.1 = name
    · simp [removeEntry, h]
    · simp [removeEntry, h, ih]

/-- After a removal a look-up finds what it found before under every other name. -/
theorem get?_erase_of_ne {p : Params} {name k : String} (h : k ≠ name) :
    (p.erase name).get? k = p.get? k := by
  obtain ⟨entries⟩ := p
  simp only [erase, get?]
  induction entries with
  | nil => rfl
  | cons e rest ih =>
    rw [removeEntry]
    split
    · next he =>
      -- the entry that is taken out has another name than the one that is looked for
      rw [List.find?_cons_of_neg (by simpa [he] using h.symm)]
    · by_cases hk : e.1 = k
      · simp [hk]
      · rw [List.find?_cons_of_neg (by simpa using hk), ih,
          List.find?_cons_of_neg (by simpa using hk)]

/-- After a removal a look-up finds nothing under the name, if it stood there once. -/
theorem get?_erase_self {p : Params} (h : p.keys.Nodup) (name : String) :
    (p.erase name).get? name = none := by
  rw [get?_eq_none_iff, keys_erase]
  exact h.not_mem_erase

end Params

end SqlCompose

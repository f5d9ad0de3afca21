import SqlCompose.Proofs.Mentions
import SqlCompose.Proofs.Params.Allocation
/-!
# Parameters written over each other

Inserting entries one after the other into a map keeps every name where it was first
mentioned, with the value that was written last. `Params.overlay` says this of a list of
entries at once, without a map that changes on the way, and
`Params.entries_insertMany` is the agreement of the two.

A map with distinct names is known from its names and from what a look-up finds
(`Params.entries_eq_of_nodup`), so the agreement splits into one on names and one on
look-ups.
-/

namespace SqlCompose.Params

/-- The value that is written last under a name. -/
def lastWritten (es : List (String × Value)) (name : String) : Option Value :=
  (es.findRev? (·.1 == name)).map (·.2)

/-- **Entries written over each other.** Each name stands once, where it is first
mentioned, with the value that is written last. -/
def overlay (es : List (String × Value)) : List (String × Value) :=
  (es.map (·.1)).eraseDups.filterMap fun name => (lastWritten es name).map fun v => (name, v)

/-! ### Names -/

/-- Insertions keep the names distinct. -/
theorem nodup_keys_insert {p : Params} (h : p.keys.Nodup) (name : String) (value : Value) :
    (p.insert name value).keys.Nodup := by
  rw [keys_insert]
  split
  · exact h
  · next hmem => exact h.append (List.nodup_singleton _) (List.disjoint_singleton.mpr hmem)

/-- The names after insertions are those that are mentioned, in the order in which they
are. -/
theorem keys_insertMany (p : Params) (es : List (String × Value)) (h : p.keys.Nodup) :
    (p.insertMany es).keys = (p.keys ++ es.map (·.1)).eraseDups := by
  induction es generalizing p with
  | nil => rw [List.map_nil, List.append_nil, eraseDups_of_nodup h, insertMany, List.foldl_nil]
  | cons e es ih =>
    have hcons : p.insertMany (e :: es) = (p.insert e.1 e.2).insertMany es := rfl
    rw [hcons, ih _ (nodup_keys_insert h e.1 e.2)]
    by_cases hmem : e.1 ∈ p.keys
    · -- the name keeps its place, and mentioning it again changes nothing
      rw [keys_insert, if_pos hmem, List.map_cons, eraseDups_append_cons_of_mem hmem]
    · -- the name comes behind the others, where it is mentioned first
      rw [keys_insert, if_neg hmem, List.map_cons, List.append_assoc, List.singleton_append]

/-- After insertions the names are the old ones and those that are mentioned. -/
theorem mem_keys_insertMany {p : Params} (h : p.keys.Nodup) {es : List (String × Value)}
    {name : String} :
    name ∈ (p.insertMany es).keys ↔ name ∈ p.keys ∨ name ∈ es.map (·.1) := by
  rw [keys_insertMany p es h, List.mem_eraseDups, List.mem_append]

/-! ### Look-ups -/

theorem lastWritten_append (es es' : List (String × Value)) (name : String) :
    lastWritten (es ++ es') name = (lastWritten es' name).or (lastWritten es name) :=
  lastMention_append es es' name

/-- A look-up after insertions finds what was written last, and what was there before
under a name that is not written. -/
theorem get?_insertMany (p : Params) (es : List (String × Value)) (name : String) :
    (p.insertMany es).get? name = (lastWritten es name).or (p.get? name) := by
  induction es generalizing p with
  | nil => rfl
  | cons e es ih =>
    have hcons : p.insertMany (e :: es) = (p.insert e.1 e.2).insertMany es := rfl
    -- later entries come first, then this one, then what was there before
    rw [hcons, ih, get?_insert, ← List.singleton_append, lastWritten_append, Option.or_assoc]
    congr 1
    by_cases h : name = e.1
    · simp [lastWritten, h]
    · simp [lastWritten, h, Ne.symm h]

/-- Under distinct names a look-up finds what was written last. -/
theorem lastWritten_entries {p : Params} (h : p.keys.Nodup) (name : String) :
    lastWritten p.entries name = p.get? name := by
  rw [lastWritten, List.findRev?_eq_find?_reverse]
  cases hlast : p.entries.reverse.find? (·.1 == name) with
  | none =>
    have hnone : p.entries.find? (·.1 == name) = none := by
      refine List.find?_eq_none.mpr fun e he => ?_
      exact List.find?_eq_none.mp hlast e (List.mem_reverse.mpr he)
    rw [get?, hnone]
  | some e =>
    -- the look-up finds this entry too, as its name stands nowhere else
    have hmem : e ∈ p.entries := List.mem_reverse.mp (List.mem_of_find?_eq_some hlast)
    have hname : e.1 = name := by simpa using List.find?_some hlast
    rw [← hname, get?_of_mem h hmem]
    rfl

/-! ### Maps -/

/-- A map with distinct names is known from its names and from what a look-up finds. -/
theorem entries_eq_of_nodup {p : Params} (h : p.keys.Nodup) :
    p.entries = p.keys.filterMap fun name => (p.get? name).map fun v => (name, v) := by
  obtain ⟨entries⟩ := p
  simp only [keys, get?] at h ⊢
  induction entries with
  | nil => rfl
  | cons e entries ih =>
    obtain ⟨hmem, hnodup⟩ := List.nodup_cons.mp h
    -- a look-up for one of the other names passes over the first entry
    have htail : ∀ name ∈ entries.map (·.1),
        (e :: entries).find? (·.1 == name) = entries.find? (·.1 == name) := by
      intro name hname
      refine List.find?_cons_of_neg ?_
      simpa using (ne_of_mem_of_not_mem hname hmem).symm
    rw [List.map_cons, List.filterMap_cons, List.find?_cons_of_pos (by simp)]
    refine congrArg (e :: ·) ((ih hnodup).trans ?_)
    refine List.filterMap_congr fun name hname => ?_
    rw [htail name hname]

theorem nodup_keys_insertMany {p : Params} (h : p.keys.Nodup) (es : List (String × Value)) :
    (p.insertMany es).keys.Nodup := by
  induction es generalizing p with
  | nil => exact h
  | cons e es ih => exact ih (nodup_keys_insert h e.1 e.2)

/-- **Insertions are an overlay** of the entries that were there and those that come. -/
theorem entries_insertMany {p : Params} (h : p.keys.Nodup) (es : List (String × Value)) :
    (p.insertMany es).entries = overlay (p.entries ++ es) := by
  calc (p.insertMany es).entries
      = (p.insertMany es).keys.filterMap fun name =>
          ((p.insertMany es).get? name).map fun v => (name, v) :=
        entries_eq_of_nodup (nodup_keys_insertMany h es)
    _ = (p.keys ++ es.map (·.1)).eraseDups.filterMap fun name =>
          (lastWritten (p.entries ++ es) name).map fun v => (name, v) := by
        rw [keys_insertMany p es h]
        simp only [get?_insertMany, lastWritten_append, lastWritten_entries h]
    _ = overlay (p.entries ++ es) := by
        rw [overlay, List.map_append]
        rfl

/-- Merging maps one after the other is inserting all their entries. -/
theorem foldl_merge (ps : List Params) (p : Params) :
    ps.foldl merge p = p.insertMany (ps.flatMap (·.entries)) := by
  induction ps generalizing p with
  | nil => rfl
  | cons q ps ih =>
    rw [List.foldl_cons, ih, List.flatMap_cons, insertMany, merge, insertMany, ← List.foldl_append]
    rfl

end SqlCompose.Params

import SqlCompose.Proofs.Mentions
import SqlCompose.Query.Edit
/-!
# Adding to a select list

Entries that are added to a select list come behind those that are there, except that an entry
with an alias takes the place of the one that has this alias already, whatever the two are.

A list is settled (`ColumnSpec.settled`) by keeping every entry without an alias and the first one
of every alias (`ColumnSpec.firsts`), and putting in the place of each the last one with its alias
(`ColumnSpec.latest`). **One entry** that is added to a settled list settles it together with what
was given before (`ColumnSpec.add_settled`), so adding a list settles all that was given
(`ColumnSpec.foldl_add_settled`). As nothing changes in a list whose aliases are distinct
(`ColumnSpec.settled_of_nodup`), this says what is added to any such list, which is
`Query.addSelect_in_place`.
-/

namespace SqlCompose

namespace ColumnSpec

variable {θ : Type}

/-- Whether an entry has no alias of its own. -/
def isBare : ColumnSpec θ → Bool
  | bare _ => true
  | aliased _ _ | subquery _ _ => false

/-- The aliases in a list, in their order. -/
def aliases (cs : List (ColumnSpec θ)) : List String := cs.filterMap alias?

/-- The entry that is given last for an alias. -/
def lastGiven (cs : List (ColumnSpec θ)) (name : String) : Option (ColumnSpec θ) :=
  cs.findRev? (·.alias? == some name)

/-- The entry that is given last for the alias of an entry, if it has one. -/
def latest (cs : List (ColumnSpec θ)) (c : ColumnSpec θ) : ColumnSpec θ :=
  match c.alias? with
  | some name => (lastGiven cs name).getD c
  | none => c

/-- The entries without an alias, and the first one of every alias that is not taken. -/
def firsts (taken : List String) : List (ColumnSpec θ) → List (ColumnSpec θ)
  | [] => []
  | c :: cs =>
    match c.alias? with
    | some name => if name ∈ taken then firsts taken cs else c :: firsts (taken ++ [name]) cs
    | none => c :: firsts taken cs

/-- **A list settled**: every alias once, in the place of its first mention, with the entry that
is given last for it. -/
def settled (cs : List (ColumnSpec θ)) : List (ColumnSpec θ) := (firsts [] cs).map (latest cs)

variable {cs : List (ColumnSpec θ)} {c : ColumnSpec θ} {name : String} {taken : List String}

theorem isBare_iff : c.isBare = true ↔ c.alias? = none := by
  cases c <;> simp [isBare, alias?]

theorem mem_aliases : name ∈ aliases cs ↔ ∃ c ∈ cs, c.alias? = some name := List.mem_filterMap

theorem aliases_append (cs cs' : List (ColumnSpec θ)) :
    aliases (cs ++ cs') = aliases cs ++ aliases cs' := List.filterMap_append

theorem aliases_cons_of_bare (h : c.alias? = none) : aliases (c :: cs) = aliases cs :=
  List.filterMap_cons_none h

theorem aliases_cons_of_alias (h : c.alias? = some name) :
    aliases (c :: cs) = name :: aliases cs := List.filterMap_cons_some h

/-! ### First entries -/

theorem firsts_cons_of_bare (h : c.alias? = none) :
    firsts taken (c :: cs) = c :: firsts taken cs := by
  rw [firsts, h]

theorem firsts_cons_of_mem (h : c.alias? = some name) (hname : name ∈ taken) :
    firsts taken (c :: cs) = firsts taken cs := by
  rw [firsts, h]
  exact if_pos hname

theorem firsts_cons_of_notMem (h : c.alias? = some name) (hname : name ∉ taken) :
    firsts taken (c :: cs) = c :: firsts (taken ++ [name]) cs := by
  rw [firsts, h]
  exact if_neg hname

theorem firsts_sublist (taken : List String) (cs : List (ColumnSpec θ)) :
    (firsts taken cs).Sublist cs := by
  fun_induction firsts taken cs with
  | case1 taken => exact List.Sublist.refl _
  | case2 taken c cs name h hname ih => exact ih.cons c
  | case3 taken c cs name h hname ih => exact ih.cons_cons c
  | case4 taken c cs h ih => exact ih.cons_cons c

/-- The aliases of the first entries are those that are mentioned, each once. -/
theorem aliases_firsts (htaken : taken.Nodup) (cs : List (ColumnSpec θ)) :
    taken ++ aliases (firsts taken cs) = (taken ++ aliases cs).eraseDups := by
  fun_induction firsts taken cs with
  | case1 taken => rw [aliases, List.filterMap_nil, List.append_nil, eraseDups_of_nodup htaken]
  | case2 taken c cs name h hname ih =>
    rw [ih htaken, aliases_cons_of_alias h, eraseDups_append_cons_of_mem hname]
  | case3 taken c cs name h hname ih =>
    -- from here on the alias is taken
    have htaken' : (taken ++ [name]).Nodup :=
      htaken.append (List.nodup_singleton _) (List.disjoint_singleton.mpr hname)
    rw [aliases_cons_of_alias h, aliases_cons_of_alias h, List.append_cons, ih htaken',
      ← List.append_cons]
  | case4 taken c cs h ih => rw [aliases_cons_of_bare h, aliases_cons_of_bare h, ih htaken]

/-- Entries without an alias are all kept. -/
theorem filter_isBare_firsts (taken : List String) (cs : List (ColumnSpec θ)) :
    (firsts taken cs).filter isBare = cs.filter isBare := by
  have hnot : ∀ {c : ColumnSpec θ} {name : String}, c.alias? = some name → ¬ c.isBare = true := by
    intro c name h
    rw [isBare_iff, h]
    simp
  fun_induction firsts taken cs with
  | case1 taken => rfl
  | case2 taken c cs name h hname ih => rw [List.filter_cons_of_neg (hnot h), ih]
  | case3 taken c cs name h hname ih =>
    rw [List.filter_cons_of_neg (hnot h), List.filter_cons_of_neg (hnot h), ih]
  | case4 taken c cs h ih => rw [List.filter_cons, List.filter_cons, ih]

/-- Behind a list the aliases of its first entries are taken. -/
theorem firsts_append (taken : List String) (cs cs' : List (ColumnSpec θ)) :
    firsts taken (cs ++ cs') =
      firsts taken cs ++ firsts (taken ++ aliases (firsts taken cs)) cs' := by
  fun_induction firsts taken cs with
  | case1 taken =>
    rw [aliases, List.filterMap_nil, List.append_nil, List.nil_append, List.nil_append]
  | case2 taken c cs name h hname ih => rw [List.cons_append, firsts_cons_of_mem h hname, ih]
  | case3 taken c cs name h hname ih =>
    rw [List.cons_append, firsts_cons_of_notMem h hname, ih, aliases_cons_of_alias h,
      List.append_cons taken name (aliases _), List.cons_append]
  | case4 taken c cs h ih =>
    rw [List.cons_append, firsts_cons_of_bare h, ih, aliases_cons_of_bare h, List.cons_append]

/-- A list with distinct aliases is kept as a whole if none of them is taken. -/
theorem firsts_of_nodup (h : (taken ++ aliases cs).Nodup) : firsts taken cs = cs := by
  fun_induction firsts taken cs with
  | case1 taken => rfl
  | case2 taken c cs name hc hname ih =>
    -- a taken alias would stand twice
    rw [aliases_cons_of_alias hc] at h
    exact absurd List.mem_cons_self (List.disjoint_of_nodup_append h hname)
  | case3 taken c cs name hc hname ih =>
    rw [aliases_cons_of_alias hc, List.append_cons] at h
    rw [ih h]
  | case4 taken c cs hc ih =>
    rw [aliases_cons_of_bare hc] at h
    rw [ih h]

/-! ### Last entries -/

theorem lastGiven_append (cs cs' : List (ColumnSpec θ)) (name : String) :
    lastGiven (cs ++ cs') name = (lastGiven cs' name).or (lastGiven cs name) := by
  simp only [lastGiven, List.findRev?_eq_find?_reverse, List.reverse_append, List.find?_append]

theorem lastGiven_singleton (c : ColumnSpec θ) (name : String) :
    lastGiven [c] name = if c.alias? = some name then some c else none := by
  rw [lastGiven, List.findRev?_eq_find?_reverse, List.reverse_singleton]
  by_cases h : c.alias? = some name
  · rw [List.find?_cons_of_pos (by simpa using h), if_pos h]
  · rw [List.find?_cons_of_neg (by simpa using h), if_neg h, List.find?_nil]

theorem alias?_of_lastGiven {c' : ColumnSpec θ} (h : lastGiven cs name = some c') :
    c'.alias? = some name := by
  rw [lastGiven, List.findRev?_eq_find?_reverse] at h
  simpa using List.find?_some h

theorem exists_lastGiven (hc : c ∈ cs) (h : c.alias? = some name) :
    ∃ c', lastGiven cs name = some c' := by
  rw [← Option.isSome_iff_exists, lastGiven, List.findRev?_eq_find?_reverse, List.find?_isSome]
  exact ⟨c, List.mem_reverse.mpr hc, by simpa using h⟩

theorem latest_of_bare (h : c.alias? = none) : latest cs c = c := by
  rw [latest, h]

/-- The entry that is given last for an alias has this alias. -/
theorem alias?_latest (cs : List (ColumnSpec θ)) (c : ColumnSpec θ) :
    (latest cs c).alias? = c.alias? := by
  unfold latest
  split
  · next name h =>
    cases hlast : lastGiven cs name with
    | none => rfl
    | some c' => exact (alias?_of_lastGiven hlast).trans h.symm
  · rfl

/-- One more entry without an alias changes nothing. -/
theorem latest_concat_of_bare (h : c.alias? = none) (d : ColumnSpec θ) :
    latest (cs ++ [c]) d = latest cs d := by
  simp only [latest, lastGiven_append, lastGiven_singleton, h, reduceCtorEq, if_false,
    Option.none_or]

/-- One more entry is the last one for its alias. -/
theorem latest_concat_of_alias (h : c.alias? = some name) (d : ColumnSpec θ) :
    latest (cs ++ [c]) d = if d.alias? = some name then c else latest cs d := by
  unfold latest
  split
  · next name' hd =>
    rw [lastGiven_append, lastGiven_singleton, h, hd]
    by_cases hname : name' = name
    · rw [hname, if_pos rfl, if_pos rfl, Option.some_or, Option.getD_some]
    · simp [hname, Ne.symm hname]
  · next hd => simp [hd]

theorem aliases_map_latest (cs ds : List (ColumnSpec θ)) :
    aliases (ds.map (latest cs)) = aliases ds := by
  rw [aliases, List.filterMap_map]
  exact List.filterMap_congr fun d _ => alias?_latest cs d

theorem filter_isBare_map_latest (cs ds : List (ColumnSpec θ)) :
    (ds.map (latest cs)).filter isBare = ds.filter isBare := by
  have hbare : isBare ∘ latest cs = isBare := by
    funext d
    rw [Function.comp_apply, Bool.eq_iff_iff, isBare_iff, isBare_iff, alias?_latest]
  rw [List.filter_map, hbare]
  refine (List.map_congr_left fun d hd => ?_).trans (List.map_id _)
  exact latest_of_bare (isBare_iff.mp (List.mem_filter.mp hd).2)

theorem lastGiven_eq_latest (hc : c ∈ cs) (h : c.alias? = some name) :
    lastGiven cs name = some (latest cs c) := by
  obtain ⟨c', hc'⟩ := exists_lastGiven hc h
  simp only [latest, h, hc', Option.getD_some]

/-! ### Adding entries -/

/-- A settled list has every alias once. -/
theorem aliases_settled (cs : List (ColumnSpec θ)) :
    aliases (settled cs) = (aliases cs).eraseDups := by
  have hfirsts := aliases_firsts List.nodup_nil cs
  rwa [List.nil_append, List.nil_append, ← aliases_map_latest cs] at hfirsts

theorem nodup_aliases_settled (cs : List (ColumnSpec θ)) : (aliases (settled cs)).Nodup := by
  rw [aliases_settled]
  exact nodup_eraseDups _

/-- An entry with a new alias comes last. -/
theorem replace_of_notMem (h : name ∉ aliases cs) : replace name c cs = cs ++ [c] := by
  induction cs with
  | nil => rfl
  | cons d cs ih =>
    have hd : d.alias? ≠ some name := fun hd => h (mem_aliases.mpr ⟨d, List.mem_cons_self, hd⟩)
    have hcs : name ∉ aliases cs := fun hmem => by
      obtain ⟨d', hd', hname⟩ := mem_aliases.mp hmem
      exact h (mem_aliases.mpr ⟨d', List.mem_cons_of_mem d hd', hname⟩)
    rw [replace, if_neg hd, ih hcs, List.cons_append]

/-- An entry with an alias that is there takes the place of the one that has it. -/
theorem replace_of_mem (hnodup : (aliases cs).Nodup) (h : name ∈ aliases cs) :
    replace name c cs = cs.map fun d => if d.alias? = some name then c else d := by
  induction cs with
  | nil => exact absurd h List.not_mem_nil
  | cons d cs ih =>
    rw [replace, List.map_cons]
    by_cases hd : d.alias? = some name
    · -- no entry behind this one has the alias
      rw [aliases_cons_of_alias hd, List.nodup_cons] at hnodup
      have hrest : cs.map (fun d => if d.alias? = some name then c else d) = cs := by
        refine (List.map_congr_left fun d' hd' => if_neg fun hname => ?_).trans (List.map_id cs)
        exact hnodup.1 (mem_aliases.mpr ⟨d', hd', hname⟩)
      rw [if_pos hd, if_pos hd, hrest]
    · have hsub : (aliases cs).Sublist (aliases (d :: cs)) :=
        (List.sublist_cons_self d cs).filterMap _
      have hmem : name ∈ aliases cs := by
        obtain ⟨d', hd', hname⟩ := mem_aliases.mp h
        rcases List.mem_cons.mp hd' with rfl | hd'
        · exact absurd hname hd
        · exact mem_aliases.mpr ⟨d', hd', hname⟩
      rw [if_neg hd, if_neg hd, ih (hnodup.sublist hsub) hmem]

/-- An entry without an alias comes last. -/
theorem add_of_bare (h : c.alias? = none) : add cs c = cs ++ [c] := by
  rw [add, h]

theorem add_of_alias (h : c.alias? = some name) : add cs c = replace name c cs := by
  rw [add, h]

/-- **One more entry** is settled together with those given before. -/
theorem add_settled (cs : List (ColumnSpec θ)) (c : ColumnSpec θ) :
    add (settled cs) c = settled (cs ++ [c]) := by
  have htaken : aliases (firsts [] cs) = aliases (settled cs) := (aliases_map_latest cs _).symm
  rw [settled.eq_def (cs ++ [c]), firsts_append, List.nil_append, List.map_append]
  cases h : c.alias? with
  | none =>
    rw [add_of_bare h, firsts_cons_of_bare h, firsts, List.map_singleton, latest_of_bare h]
    exact congrArg (· ++ [c]) (List.map_congr_left fun d _ => (latest_concat_of_bare h d).symm)
  | some name =>
    rw [add_of_alias h, htaken]
    by_cases hname : name ∈ aliases (settled cs)
    · -- the entry is the last one in the place of its alias
      rw [firsts_cons_of_mem h hname, firsts, List.map_nil, List.append_nil,
        replace_of_mem (nodup_aliases_settled cs) hname, settled, List.map_map]
      refine List.map_congr_left fun d _ => ?_
      rw [latest_concat_of_alias h, Function.comp_apply, alias?_latest]
    · rw [firsts_cons_of_notMem h hname, firsts, List.map_singleton, replace_of_notMem hname,
        latest_concat_of_alias h, if_pos h]
      -- no entry in front has the alias
      refine congrArg (· ++ [c]) (List.map_congr_left fun d hd => ?_)
      rw [latest_concat_of_alias h, if_neg]
      exact fun hd' => hname (htaken ▸ mem_aliases.mpr ⟨d, hd, hd'⟩)

/-- **Adding entries** settles all that was given. -/
theorem foldl_add_settled (cs cs' : List (ColumnSpec θ)) :
    cs'.foldl add (settled cs) = settled (cs ++ cs') := by
  induction cs' generalizing cs with
  | nil => rw [List.foldl_nil, List.append_nil]
  | cons c cs' ih => rw [List.foldl_cons, add_settled, ih, List.append_assoc, List.singleton_append]

/-- A list with distinct aliases is settled. -/
theorem settled_of_nodup (h : (aliases cs).Nodup) : settled cs = cs := by
  induction cs using List.reverseRecOn with
  | nil => rfl
  | append_singleton cs c ih =>
    rw [aliases_append] at h
    -- the last entry is one that has been added to the others, and its alias is new
    rw [← add_settled, ih h.of_append_left]
    cases hc : c.alias? with
    | none => exact add_of_bare hc
    | some name =>
      rw [aliases_cons_of_alias hc] at h
      rw [add_of_alias hc]
      exact replace_of_notMem fun hmem => List.disjoint_of_nodup_append h hmem List.mem_cons_self

/-- **Adding entries** to a list with distinct aliases keeps its places, opens places for new
aliases and entries without any behind them, and puts the last entry for every alias in its
place. -/
theorem foldl_add_of_nodup (h : (aliases cs).Nodup) (cs' : List (ColumnSpec θ)) :
    cs'.foldl add cs = (cs ++ firsts (aliases cs) cs').map (latest (cs ++ cs')) := by
  have hfold := foldl_add_settled cs cs'
  rwa [settled_of_nodup h, settled, firsts_append, firsts_of_nodup h, List.nil_append] at hfold

end ColumnSpec

namespace Query

open ColumnSpec

/-- **Adding to a select list** whose aliases are distinct leaves them distinct. The entries
without an alias are those that were there and the added ones behind them; every alias that was
there stands where it stood, and behind all of these stand the entries without an alias and the
new aliases, each where it is mentioned first; for every alias stands the entry that is given for
it last. Adding twice is adding both lists at once. -/
theorem addSelect_in_place (q : Query) (added : List (ColumnSpec Query))
    (h : (aliases q.node.select).Nodup) :
    let old := q.node.select
    let new := (q.addSelect added).node.select
    (aliases new).Nodup ∧
      new.filter isBare = old.filter isBare ++ added.filter isBare ∧
      new.map alias? = old.map alias? ++ (firsts (aliases old) added).map alias? ∧
      (∀ c ∈ new, ∀ name, c.alias? = some name → lastGiven (old ++ added) name = some c) ∧
      ∀ more, (q.addSelect added).addSelect more = q.addSelect (added ++ more) := by
  intro old new
  have hnew : new = (old ++ firsts (aliases old) added).map (latest (old ++ added)) :=
    foldl_add_of_nodup h added
  -- each part is read off the closed form of the list
  refine ⟨?_, ?_, ?_, ?_, fun more => ?_⟩
  · rw [hnew, aliases_map_latest, aliases_append, aliases_firsts h]
    exact nodup_eraseDups _
  · rw [hnew, filter_isBare_map_latest, List.filter_append, filter_isBare_firsts]
  · rw [hnew, List.map_map, ← List.map_append]
    exact List.map_congr_left fun d _ => alias?_latest _ d
  · intro c hc name hname
    rw [hnew] at hc
    obtain ⟨d, hd, rfl⟩ := List.mem_map.mp hc
    rw [alias?_latest] at hname
    exact lastGiven_eq_latest (((firsts_sublist _ added).append_left old).subset hd) hname
  · unfold addSelect
    rw [List.foldl_append]

/-- The alias of an expression is given to a subquery, an alias that is new comes twice, and a
name without alias stands between the two. -/
theorem addSelect_in_place_kinds :
    let q : Query := empty.select [.bare "id", .aliased "n" "name", .subquery "c" empty]
    let added : List (ColumnSpec Query) :=
      [.subquery "n" empty, .aliased "m" "f(x)", .bare "id", .aliased "c" "y", .aliased "m" "g(x)"]
    (aliases q.node.select).Nodup ∧
      (q.addSelect added).node.select.map alias? =
        [none, some "n", some "c", some "m", none] ∧
      ∀ c ∈ (q.addSelect added).node.select, ∀ name, c.alias? = some name →
        lastGiven (q.node.select ++ added) name = some c := by
  intro q added
  have hnodup : (aliases q.node.select).Nodup := by decide
  obtain ⟨-, -, hplaces, hlast, -⟩ := addSelect_in_place q added hnodup
  exact ⟨hnodup, hplaces, hlast⟩

end Query

end SqlCompose

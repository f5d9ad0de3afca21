import Mathlib.Data.List.Basic
import Mathlib.Data.List.Nodup
import Mathlib.Data.List.Perm.Basic
import Mathlib.Logic.ExistsUnique
import SqlCompose.Proofs.Pattern.Wildcard
/-!
# Replacing keys

An escaping cuts a text into spans from left to right: the longest key that stands in front of
what remains or, where none does, one character. `LikeEscape.Cut` says so without a search. Every
text has one cut and no other (`LikeEscape.exists_cut`, `LikeEscape.Cut.unique`), and applying the
escaping writes the replacements of its keys between the other characters
(`LikeEscape.apply_of_cut`).

What is known of cuts is then known of the escaping. A cut depends on which keys there are and not
on their order; if keys are single characters, cuts are put together like texts
(`LikeEscape.Cut.append`). The standard escaping can be undone, since an escaped value is a pattern
that fits this value and no other (`LikeEscape.apply_standard_injective`).
-/

namespace SqlCompose.LikeEscape

/-! ### Cuts -/

/-- The keys of an escaping and their replacements, as they are given. -/
def given : LikeEscape → List (List Char × List Char)
  | standard => [(['%'], ['\\', '%']), (['_'], ['\\', '_']), (['\\'], ['\\', '\\'])]
  | custom pairs => pairs.map fun p => (p.1.toList, p.2.toList)
  | verbatim => []

/-- The keys as they are given. -/
def keys (e : LikeEscape) : List (List Char) := e.given.map Prod.fst

/-- The replacement of a key: that of its last pair. -/
def replacement (e : LikeEscape) (key : List Char) : List Char :=
  (e.given.reverse.lookup key).getD []

/-- **The longest key** in front of a text, the empty key left out. -/
structure IsLongestKey (e : LikeEscape) (key cs : List Char) : Prop where
  mem : key ∈ e.keys
  nonempty : key ≠ []
  front : key <+: cs
  longest : ∀ key' ∈ e.keys, key' <+: cs → key'.length ≤ key.length

/-- A span of a text: a key, or a character at which no key stands. -/
inductive Span
  | key (key : List Char)
  | plain (c : Char)

/-- The characters of a span. -/
def Span.chars : Span → List Char
  | key k => k
  | plain c => [c]

/-- The characters that an escaping writes for a span. -/
def Span.replaced (e : LikeEscape) : Span → List Char
  | key k => e.replacement k
  | plain c => [c]

/-- **The cut of a text**, from left to right: each span is the longest key in front of what
remains, or one character if there is none. -/
inductive Cut (e : LikeEscape) : List Char → List Span → Prop
  | nil : Cut e [] []
  | key {k cs : List Char} {ss : List Span} (hk : e.IsLongestKey k cs)
      (hrest : Cut e (cs.drop k.length) ss) : Cut e cs (.key k :: ss)
  | plain {c : Char} {cs : List Char} {ss : List Span}
      (hnone : ∀ k ∈ e.keys, k ≠ [] → ¬k <+: c :: cs) (hrest : Cut e cs ss) :
      Cut e (c :: cs) (.plain c :: ss)

variable {e e' : LikeEscape} {k k' cs cs' : List Char} {ss ss' : List Span}

/-- Of two keys in front of a text that are both the longest neither is longer. -/
theorem IsLongestKey.unique (h : e.IsLongestKey k cs) (h' : e.IsLongestKey k' cs) : k = k' := by
  have hle := h'.longest k h.mem h.front
  have hge := h.longest k' h'.mem h'.front
  have hprefix : k <+: k' := List.prefix_of_prefix_length_le h.front h'.front hle
  exact hprefix.eq_of_length (Nat.le_antisymm hle hge)

/-- A text has one cut at most. -/
theorem Cut.unique (h : e.Cut cs ss) (h' : e.Cut cs ss') : ss = ss' := by
  -- at each place only one kind of span is possible, since a character stands where no key does
  induction h generalizing ss' with
  | nil =>
    cases h' with
    | nil => rfl
    | key hk _ => exact absurd (List.prefix_nil.mp hk.front) hk.nonempty
  | key hk hrest ih =>
    cases h' with
    | nil => exact absurd (List.prefix_nil.mp hk.front) hk.nonempty
    | key hk' hrest' =>
      obtain rfl := hk.unique hk'
      rw [ih hrest']
    | plain hnone _ => exact absurd hk.front (hnone _ hk.mem hk.nonempty)
  | plain hnone hrest ih =>
    cases h' with
    | key hk' _ => exact absurd hk'.front (hnone _ hk'.mem hk'.nonempty)
    | plain _ hrest' => rw [ih hrest']

/-- A cut leaves nothing out. -/
theorem Cut.flatMap_chars (h : e.Cut cs ss) : ss.flatMap Span.chars = cs := by
  induction h with
  | nil => rfl
  | key hk _ ih =>
    obtain ⟨rest, rfl⟩ := hk.front
    rw [List.drop_left] at ih
    rw [List.flatMap_cons, ih]
    rfl
  | plain _ _ ih =>
    rw [List.flatMap_cons, ih]
    rfl

/-- If keys are single characters, the cut of a text in two parts is that of the parts. -/
theorem Cut.append (hsingle : ∀ k ∈ e.keys, k ≠ [] → k.length = 1) (h : e.Cut cs ss)
    (h' : e.Cut cs' ss') : e.Cut (cs ++ cs') (ss ++ ss') := by
  induction h with
  | nil => exact h'
  | @key k cs ss hk _ ih =>
    refine .key ⟨hk.mem, hk.nonempty, hk.front.trans (List.prefix_append _ _), ?_⟩ ?_
    · intro k₁ hk₁ _
      by_cases hempty : k₁ = []
      · rw [hempty]
        exact Nat.zero_le _
      · rw [hsingle k₁ hk₁ hempty, hsingle k hk.mem hk.nonempty]
    · rwa [List.drop_append_of_le_length hk.front.length_le]
  | @plain c cs ss hnone _ ih =>
    refine .plain (fun k hk hempty hfront => hnone k hk hempty ?_) ih
    -- a key of one character does not reach into the second part
    refine List.prefix_of_prefix_length_le hfront (List.prefix_append _ _) ?_
    rw [hsingle k hk hempty, List.length_cons]
    omega

/-! ### The search for the longest key -/

section Search

variable {ps : List (List Char × List Char)} {p r : List Char × List Char}

/-- What the search takes: a pair whose key stands in front of a text, of these the longest, and
of equal ones the last. -/
structure IsFound (ps : List (List Char × List Char)) (cs : List Char)
    (p : List Char × List Char) : Prop where
  front : p.1 <+: cs
  longest : ∀ q ∈ ps, q.1 <+: cs → q.1.length ≤ p.1.length
  last : ps.reverse.lookup p.1 = some p.2

/-- A further pair is taken if its key stands in front and is no shorter than what was found. -/
theorem longest?_concat (ps : List (List Char × List Char)) (p : List Char × List Char)
    (cs : List Char) :
    longest? (ps ++ [p]) cs =
      if p.1 <+: cs ∧ (longest? ps cs).all (·.1.length ≤ p.1.length) then some p
      else longest? ps cs := by
  by_cases hp : p.1 <+: cs
  · cases hps : longest? ps cs with
    | none =>
      rw [longest?] at hps ⊢
      simp [List.filter_append, List.foldl_append, hp, hps]
    | some b =>
      rw [longest?] at hps ⊢
      simp [List.filter_append, List.foldl_append, hp, hps]
  · simp [longest?, List.filter_append, hp]

/-- What was found is found as well behind a pair that is passed over. -/
theorem IsFound.concat (h : IsFound ps cs r)
    (hp : p.1 <+: cs → p.1.length < r.1.length) : IsFound (ps ++ [p]) cs r := by
  refine ⟨h.front, fun q hq hfront => ?_, ?_⟩
  · rcases List.mem_append.mp hq with hq | hq
    · exact h.longest q hq hfront
    · obtain rfl := List.mem_singleton.mp hq
      exact (hp hfront).le
  · -- the pair has another key, since it is shorter or does not stand in front
    have hne : r.1 ≠ p.1 := by
      intro heq
      exact (hp (heq ▸ h.front)).ne (congrArg List.length heq.symm)
    rw [List.reverse_append, List.reverse_singleton, List.singleton_append, List.lookup_cons,
      beq_false_of_ne hne]
    exact h.last

/-- **The search** finds a pair, or there is no key in front of the text. -/
theorem longest?_spec (ps : List (List Char × List Char)) (cs : List Char) :
    (longest? ps cs = none ∧ ∀ p ∈ ps, ¬p.1 <+: cs) ∨
      ∃ r, longest? ps cs = some r ∧ IsFound ps cs r := by
  -- from the last pair on, as it is the one that wins against what was found before
  induction ps using List.reverseRecOn with
  | nil => exact Or.inl ⟨rfl, fun p hp => absurd hp List.not_mem_nil⟩
  | append_singleton ps p ih =>
    rw [longest?_concat]
    by_cases hp : p.1 <+: cs ∧ (longest? ps cs).all (·.1.length ≤ p.1.length)
    · -- the further pair is taken
      rw [if_pos hp]
      refine Or.inr ⟨p, rfl, hp.1, fun q hq hfront => ?_, ?_⟩
      · rcases List.mem_append.mp hq with hq | hq
        · rcases ih with ⟨-, hnone⟩ | ⟨b, hb, hfound⟩
          · exact absurd hfront (hnone q hq)
          · have hle : b.1.length ≤ p.1.length := by simpa [hb] using hp.2
            exact (hfound.longest q hq hfront).trans hle
        · rw [List.mem_singleton.mp hq]
      · rw [List.reverse_append, List.reverse_singleton, List.singleton_append, List.lookup_cons,
          beq_self_eq_true]
    · rw [if_neg hp]
      rcases ih with ⟨hps, hnone⟩ | ⟨b, hb, hfound⟩
      · -- nothing was found, so the further pair does not stand in front
        refine Or.inl ⟨hps, fun q hq => ?_⟩
        rcases List.mem_append.mp hq with hq | hq
        · exact hnone q hq
        · rw [List.mem_singleton.mp hq]
          exact fun hfront => hp ⟨hfront, by simp [hps]⟩
      · refine Or.inr ⟨b, hb, hfound.concat fun hfront => ?_⟩
        rw [← not_le]
        exact fun hle => hp ⟨hfront, by simpa [hb] using hle⟩

end Search

/-! ### Replacing along a cut -/

theorem pairs_eq (e : LikeEscape) : e.pairs = e.given.filter fun p => !p.1.isEmpty := by
  cases e with
  | standard => rfl
  | verbatim => rfl
  | custom pairs =>
    rw [LikeEscape.pairs, given, List.filter_map]
    refine congrArg _ (List.filter_congr fun p _ => ?_)
    rw [Function.comp_apply, Bool.not_inj_iff, Bool.eq_iff_iff, String.isEmpty_iff,
      List.isEmpty_iff, String.toList_eq_nil_iff]

theorem mem_pairs_iff {p : List Char × List Char} : p ∈ e.pairs ↔ p ∈ e.given ∧ p.1 ≠ [] := by
  rw [pairs_eq, List.mem_filter]
  simp

/-- The empty keys are in nobody's way. -/
theorem lookup_pairs (hk : k ≠ []) : e.pairs.reverse.lookup k = e.given.reverse.lookup k := by
  rw [pairs_eq, ← List.filter_reverse]
  generalize e.given.reverse = ps
  induction ps with
  | nil => rfl
  | cons p ps ih =>
    rw [List.filter_cons, List.lookup_cons]
    by_cases hp : p.1 = []
    · rw [hp, beq_false_of_ne hk]
      exact ih
    · rw [if_pos (by simpa using hp), List.lookup_cons, ih]

/-- What the search finds is the longest key in front, with its replacement. -/
theorem IsFound.isLongestKey {r : List Char × List Char} (h : IsFound e.pairs cs r) :
    e.IsLongestKey r.1 cs ∧ e.replacement r.1 = r.2 := by
  have hmem : r ∈ e.pairs := by
    obtain ⟨_, _, hsplit, -⟩ := List.lookup_eq_some_iff.mp h.last
    rw [← List.mem_reverse, hsplit]
    exact List.mem_append_right _ List.mem_cons_self
  obtain ⟨hgiven, hne⟩ := mem_pairs_iff.mp hmem
  refine ⟨⟨List.mem_map_of_mem hgiven, hne, h.front, fun k hk hfront => ?_⟩, ?_⟩
  · obtain ⟨p, hp, rfl⟩ := List.mem_map.mp hk
    -- the search leaves empty keys out, and they are not longer than any
    by_cases hempty : p.1 = []
    · rw [hempty]
      exact Nat.zero_le _
    · exact h.longest p (mem_pairs_iff.mpr ⟨hp, hempty⟩) hfront
  · rw [replacement, ← lookup_pairs hne, h.last]
    rfl

/-- Where a key stands in front, the search finds the longest one. -/
theorem longest?_of_isLongestKey (h : e.IsLongestKey k cs) :
    longest? e.pairs cs = some (k, e.replacement k) := by
  obtain ⟨p, hp, rfl⟩ := List.mem_map.mp h.mem
  rcases longest?_spec e.pairs cs with ⟨-, hnone⟩ | ⟨r, hr, hfound⟩
  · exact absurd h.front (hnone p (mem_pairs_iff.mpr ⟨hp, h.nonempty⟩))
  · obtain ⟨hlongest, htext⟩ := hfound.isLongestKey
    rw [hr, h.unique hlongest, htext]

/-- Where no key stands in front, the search finds none. -/
theorem longest?_of_no_key (h : ∀ k ∈ e.keys, k ≠ [] → ¬k <+: cs) : longest? e.pairs cs = none := by
  rcases longest?_spec e.pairs cs with ⟨hnone, -⟩ | ⟨r, -, hfound⟩
  · exact hnone
  · obtain ⟨hlongest, -⟩ := hfound.isLongestKey
    exact absurd hfound.front (h r.1 hlongest.mem hlongest.nonempty)

/-- **Every text has a cut.** -/
theorem exists_cut (e : LikeEscape) (cs : List Char) : ∃ ss, e.Cut cs ss := by
  -- on the length, since a key takes away more than the first character
  induction hn : cs.length using Nat.strong_induction_on generalizing cs with
  | _ n ih =>
    cases cs with
    | nil => exact ⟨[], .nil⟩
    | cons c cs =>
      rcases longest?_spec e.pairs (c :: cs) with ⟨-, hnone⟩ | ⟨r, -, hfound⟩
      · -- no key stands here, and the text goes on behind one character
        obtain ⟨ss, hss⟩ := ih cs.length (by rw [← hn]; exact Nat.lt_succ_self _) cs rfl
        refine ⟨.plain c :: ss, .plain (fun k hk hempty => ?_) hss⟩
        obtain ⟨p, hp, rfl⟩ := List.mem_map.mp hk
        exact hnone p (mem_pairs_iff.mpr ⟨hp, hempty⟩)
      · obtain ⟨hlongest, -⟩ := hfound.isLongestKey
        have hlt : ((c :: cs).drop r.1.length).length < n := by
          have hpos := List.length_pos_iff.mpr hlongest.nonempty
          rw [List.length_drop, hn]
          rw [List.length_cons] at hn
          omega
        obtain ⟨ss, hss⟩ := ih _ hlt _ rfl
        exact ⟨.key r.1 :: ss, .key hlongest hss⟩

/-- The characters of a replaced key are passed over. -/
theorem replaceFrom_length_append (ps : List (List Char × List Char)) (k cs : List Char) :
    replaceFrom ps k.length (k ++ cs) = replaceFrom ps 0 cs := by
  induction k with
  | nil => rfl
  | cons c k ih => exact ih

theorem replaceFrom_of_cut (h : e.Cut cs ss) :
    replaceFrom e.pairs 0 cs = ss.flatMap (Span.replaced e) := by
  induction h with
  | nil => rfl
  | @key k cs ss hk _ ih =>
    obtain ⟨rest, rfl⟩ := hk.front
    rw [List.drop_left] at ih
    -- the key has a first character, behind which the scan passes over the others
    obtain ⟨c, k', rfl⟩ := List.exists_cons_of_ne_nil hk.nonempty
    rw [List.cons_append, replaceFrom, ← List.cons_append, longest?_of_isLongestKey hk,
      List.flatMap_cons, ← ih]
    exact congrArg _ (replaceFrom_length_append e.pairs k' rest)
  | plain hnone _ ih =>
    rw [replaceFrom, longest?_of_no_key hnone, List.flatMap_cons, ← ih]
    rfl

/-- Without keys nothing is replaced. -/
theorem replaceFrom_nil (cs : List Char) : replaceFrom [] 0 cs = cs := by
  induction cs with
  | nil => rfl
  | cons c cs ih => exact congrArg (c :: ·) ih

theorem pairs_of_isRaw (h : e.isRaw = true) : e.pairs = [] := by
  cases e with
  | standard => cases h
  | verbatim => rfl
  | custom pairs =>
    rw [isRaw, List.all_eq_true] at h
    rw [LikeEscape.pairs, List.map_eq_nil_iff, List.filter_eq_nil_iff]
    intro p hp
    simp [h p hp]

/-- **Applying an escaping** writes the replacements along the cut of a text. -/
theorem apply_of_cut {text : String} (h : e.Cut text.toList ss) :
    e.apply text = String.ofList (ss.flatMap (Span.replaced e)) := by
  rw [← replaceFrom_of_cut h, apply]
  split
  · next hraw => rw [pairs_of_isRaw hraw, replaceFrom_nil, String.ofList_toList]
  · rfl

/-! ### What follows for whole texts -/

/-- A cut depends on which keys there are, and on nothing else. -/
theorem Cut.congr (hkeys : ∀ k, k ∈ e.keys ↔ k ∈ e'.keys) (h : e.Cut cs ss) : e'.Cut cs ss := by
  induction h with
  | nil => exact .nil
  | key hk _ ih =>
    refine .key ⟨(hkeys _).mp hk.mem, hk.nonempty, hk.front, fun k' hk' => ?_⟩ ih
    exact hk.longest k' ((hkeys k').mpr hk')
  | plain hnone _ ih => exact .plain (fun k hk => hnone k ((hkeys k).mpr hk)) ih

/-- Under distinct keys a look-up finds every pair. -/
theorem lookup_eq_some_iff_mem {ps : List (List Char × List Char)}
    (h : (ps.map Prod.fst).Nodup) {text : List Char} :
    ps.lookup k = some text ↔ (k, text) ∈ ps := by
  induction ps with
  | nil => simp
  | cons p ps ih =>
    obtain ⟨hnew, hrest⟩ := List.nodup_cons.mp h
    rw [List.lookup_cons, List.mem_cons]
    by_cases hk : k = p.1
    · -- no later pair has the key
      have hnone : (k, text) ∉ ps := fun hmem => hnew (hk ▸ List.mem_map_of_mem hmem)
      rw [hk, beq_self_eq_true, ← hk, or_iff_left hnone, Prod.ext_iff]
      simp [hk, eq_comm]
    · rw [beq_false_of_ne hk]
      simp [hk, Prod.ext_iff, ih hrest]

/-- The order of pairs with distinct keys does not matter. -/
theorem apply_perm {pairs pairs' : List (String × String)} (h : pairs.Perm pairs')
    (hnodup : (pairs.map Prod.fst).Nodup) (text : String) :
    (custom pairs).apply text = (custom pairs').apply text := by
  have hgiven : (custom pairs).given.Perm (custom pairs').given := h.map _
  have hkeys : (custom pairs).keys.Nodup := by
    have hchars : (custom pairs).keys = (pairs.map Prod.fst).map String.toList := by
      rw [keys, given, List.map_map, List.map_map]
      rfl
    rw [hchars]
    exact List.Nodup.map (fun _ _ hs => String.toList_inj.mp hs) hnodup
  -- a key has one pair, so it does not matter in which order the pairs are searched
  have hreplacement : ∀ k, (custom pairs).replacement k = (custom pairs').replacement k := by
    intro k
    have hperm : (custom pairs).given.reverse.Perm (custom pairs').given.reverse :=
      (List.reverse_perm _).trans (hgiven.trans (List.reverse_perm _).symm)
    have hdistinct : ((custom pairs).given.reverse.map Prod.fst).Nodup := by
      rwa [List.map_reverse, List.nodup_reverse]
    have hlookup : (custom pairs).given.reverse.lookup k =
        (custom pairs').given.reverse.lookup k := by
      ext replaced
      rw [lookup_eq_some_iff_mem hdistinct,
        lookup_eq_some_iff_mem ((hperm.map Prod.fst).nodup_iff.mp hdistinct), hperm.mem_iff]
    rw [replacement, replacement, hlookup]
  -- the same keys cut the text alike, and each is replaced by the same
  obtain ⟨ss, hss⟩ := (custom pairs).exists_cut text.toList
  have hss' : (custom pairs').Cut text.toList ss :=
    hss.congr fun k => (hgiven.map Prod.fst).mem_iff
  have hreplaced : Span.replaced (custom pairs) = Span.replaced (custom pairs') := by
    funext s
    cases s with
    | key k => exact hreplacement k
    | plain c => rfl
  rw [apply_of_cut hss, apply_of_cut hss', hreplaced]

/-- If keys are single characters, a text is replaced part by part. -/
theorem apply_append (hsingle : ∀ k ∈ e.keys, k ≠ [] → k.length = 1) (text text' : String) :
    e.apply (text ++ text') = e.apply text ++ e.apply text' := by
  obtain ⟨ss, hss⟩ := e.exists_cut text.toList
  obtain ⟨ss', hss'⟩ := e.exists_cut text'.toList
  have happend : e.Cut (text ++ text').toList (ss ++ ss') := by
    rw [String.toList_append]
    exact hss.append hsingle hss'
  rw [apply_of_cut hss, apply_of_cut hss', apply_of_cut happend, List.flatMap_append,
    String.ofList_append]

/-- The standard escaping loses nothing: an escaped value is a pattern that stands for the value
alone. -/
theorem apply_standard_injective : Function.Injective (apply standard) := by
  intro v v' h
  rw [Wildcard.apply_standard, Wildcard.apply_standard, String.ofList_inj] at h
  have hfits : Wildcard.fits (v'.toList.flatMap Wildcard.escaped ++ []) v.toList = true := by
    rw [← h]
    exact (Wildcard.fits_escaped_append _ _ _).mpr ⟨[], (List.append_nil _).symm, rfl⟩
  obtain ⟨rest, hv, hrest⟩ := (Wildcard.fits_escaped_append _ _ _).mp hfits
  rw [Wildcard.fits, List.isEmpty_iff] at hrest
  rw [← String.toList_inj, hv, hrest, List.append_nil]

theorem isRaw_iff (e : LikeEscape) :
    e.isRaw = true ↔ e = verbatim ∨ ∃ pairs, e = custom pairs ∧ ∀ p ∈ pairs, p.1 = "" := by
  cases e with
  | standard => simp [isRaw]
  | verbatim => simp [isRaw]
  | custom pairs => simp [isRaw]

/-- **Escaping is simultaneous replacement.** An escaping without keys leaves texts as they are.
Every text has exactly one cut, and applying the escaping writes the replacement of each key of the
cut in its place and keeps the other characters, so what was written is never looked at again.

The order of pairs with distinct keys does not matter, keys of one character are replaced part by
part, and the standard escaping gives different texts for different values. -/
theorem replaces_simultaneously :
    (∀ e : LikeEscape,
      (e.isRaw = true ↔ e = verbatim ∨ ∃ pairs, e = custom pairs ∧ ∀ p ∈ pairs, p.1 = "") ∧
      (e.isRaw = true → ∀ text, e.apply text = text) ∧
      ∀ text : String, (∃! ss, e.Cut text.toList ss) ∧
        ∀ ss, e.Cut text.toList ss → ss.flatMap Span.chars = text.toList ∧
          e.apply text = String.ofList (ss.flatMap (Span.replaced e))) ∧
    (∀ pairs pairs' : List (String × String), pairs.Perm pairs' → (pairs.map Prod.fst).Nodup →
      ∀ text, (custom pairs).apply text = (custom pairs').apply text) ∧
    (∀ e : LikeEscape, (∀ k ∈ e.keys, k ≠ [] → k.length = 1) →
      ∀ text text', e.apply (text ++ text') = e.apply text ++ e.apply text') ∧
    Function.Injective (apply standard) := by
  refine ⟨fun e => ⟨e.isRaw_iff, fun hraw text => if_pos hraw, fun text => ⟨?_, ?_⟩⟩,
    fun pairs pairs' h hnodup => apply_perm h hnodup, fun e hsingle => apply_append hsingle,
    apply_standard_injective⟩
  · obtain ⟨ss, hss⟩ := e.exists_cut text.toList
    exact ⟨ss, hss, fun ss' hss' => hss'.unique hss⟩
  · intro ss hss
    exact ⟨hss.flatMap_chars, apply_of_cut hss⟩

/-- A key that starts like another, has two replacements and stands beside the empty key; keys in
another order; and keys of one character. -/
theorem replaces_simultaneously_longest :
    let e : LikeEscape := custom [("a", "1"), ("ab", "2"), ("", "x"), ("ab", "a")]
    let ss : List Span := [.key ['a', 'b'], .key ['a'], .plain 'c']
    let pairs : List (String × String) := [("a", "b"), ("b", "a"), ("ab", "")]
    e.Cut "abac".toList ss ∧ e.apply "abac" = "a1c" ∧
      (custom [("", "x")]).isRaw = true ∧ (custom [("", "x")]).apply "50%" = "50%" ∧
      pairs.Perm pairs.reverse ∧ (pairs.map Prod.fst).Nodup ∧
      (custom pairs).apply "aab" = (custom pairs.reverse).apply "aab" ∧
      (∀ k ∈ standard.keys, k ≠ [] → k.length = 1) ∧
      standard.apply ("5%" ++ "_") = standard.apply "5%" ++ standard.apply "_" := by
  intro e ss pairs
  obtain ⟨hcuts, hperm, hsingle, -⟩ := replaces_simultaneously
  have hcut : e.Cut "abac".toList ss := by
    refine .key ⟨by decide, by decide, by decide, by decide⟩ ?_
    refine .key ⟨by decide, by decide, by decide, by decide⟩ ?_
    exact .plain (by decide) .nil
  have hraw : (custom [("", "x")]).isRaw = true := by decide
  have hreverse : pairs.Perm pairs.reverse := (List.reverse_perm pairs).symm
  have hnodup : (pairs.map Prod.fst).Nodup := by decide
  have hkeys : ∀ k ∈ standard.keys, k ≠ [] → k.length = 1 := by decide
  refine ⟨hcut, ?_, hraw, (hcuts _).2.1 hraw "50%", hreverse, hnodup,
    hperm _ _ hreverse hnodup "aab", hkeys, hsingle _ hkeys "5%" "_"⟩
  rw [(((hcuts e).2.2 "abac").2 ss hcut).2]
  decide

end SqlCompose.LikeEscape

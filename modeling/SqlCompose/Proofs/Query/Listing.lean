import SqlCompose.Proofs.Text.Split
import SqlCompose.Proofs.Text.Trim
import SqlCompose.Query.Names
/-!
# Lists that are written out

A list of names is a text with commas, of which only those outside parentheses and quotes separate.
A scan that starts at the beginning of a part knows which these are (`Names.Whole`): it finds none
in the part, and stands outside everything again behind a part that is closed.

So a text is cut at its first separating comma (`Names.whole_or_comma`), and behind it the scan
starts anew (`Names.pieces_append_comma`). What splitting yields follows from this by induction over
the commas (`Names.atomic_of_mem_entries`), and that parts come back by induction over the list that
was written out (`Names.entries_written`). Blanks are no matter in both, as they change neither the
scan nor what is trimmed (`Names.whole_between`).
-/

namespace SqlCompose.Names

/-! ### Scanning -/

namespace Scan

/-- The scan behind some more characters. -/
def behind (s : Scan) (cs : List Char) : Scan := cs.foldl step s

theorem behind_append (s : Scan) (xs ys : List Char) :
    s.behind (xs ++ ys) = (s.behind xs).behind ys := List.foldl_append

theorem atTop_iff {s : Scan} : s.atTop = true ↔ s = {} := by
  obtain ⟨depth, quote⟩ := s
  rw [atTop, Bool.and_eq_true, beq_iff_eq, Option.isNone_iff_eq_none, Scan.mk.injEq]

/-- A scan whose quote, if it is within one, is no blank. -/
def Sound (s : Scan) : Prop := ∀ q ∈ s.quote, Text.isBlank q = false

theorem sound_start : Sound {} := fun q hq => by cases hq

theorem Sound.step {s : Scan} (hs : s.Sound) (c : Char) : (s.step c).Sound := by
  -- a quote is kept or one of the three that open, and none of them is a blank
  intro q hq
  unfold Scan.step at hq
  cases hquote : s.quote with
  | some q' =>
    rw [hquote] at hq
    dsimp only at hq
    split at hq
    · cases hq
    · exact hs q hq
  | none =>
    rw [hquote] at hq
    dsimp only at hq
    split at hq
    · next hc =>
      cases hq
      rcases hc with rfl | rfl | rfl <;> decide
    · split at hq
      · cases hq
      · split at hq
        · cases hq
        · exact hs q hq

theorem Sound.behind {s : Scan} (hs : s.Sound) (cs : List Char) : (s.behind cs).Sound := by
  induction cs generalizing s with
  | nil => exact hs
  | cons c cs ih => exact ih (hs.step c)

/-- A blank changes nothing. -/
theorem Sound.step_blank {s : Scan} (hs : s.Sound) {c : Char} (hc : Text.isBlank c = true) :
    s.step c = s := by
  have hne : ∀ c', Text.isBlank c' = false → c ≠ c' := by
    rintro c' hc' rfl
    rw [hc] at hc'
    cases hc'
  unfold Scan.step
  cases hquote : s.quote with
  | some q =>
    exact if_neg (hne q (hs q hquote))
  | none =>
    dsimp only
    rw [if_neg, if_neg (hne '(' (by decide)), if_neg (hne ')' (by decide))]
    rintro (rfl | rfl | rfl) <;> exact hne _ (by decide) rfl

theorem Sound.behind_blanks {s : Scan} (hs : s.Sound) {w : List Char} (hw : Text.AreBlank w) :
    s.behind w = s := by
  induction w with
  | nil => rfl
  | cons c w ih =>
    change (s.step c).behind w = s
    rw [hs.step_blank (hw c List.mem_cons_self)]
    exact ih fun c hc => hw c (List.mem_cons_of_mem _ hc)

end Scan

/-! ### Parts without separating commas -/

/-- No comma stands outside parentheses and quotes, if the scan starts from `s`. -/
def Whole (s : Scan) (cs : List Char) : Prop :=
  ∀ front back, cs = front ++ ',' :: back → (s.behind front).atTop = false

theorem whole_nil (s : Scan) : Whole s [] := by
  intro front back h
  simp at h

theorem whole_cons {s : Scan} {c : Char} {cs : List Char} :
    Whole s (c :: cs) ↔ (c = ',' → s.atTop = false) ∧ Whole (s.step c) cs := by
  constructor
  · intro h
    refine ⟨?_, fun front back hcs => h (c :: front) back (by rw [hcs, List.cons_append])⟩
    rintro rfl
    exact h [] cs rfl
  · rintro ⟨hc, hcs⟩ front back h
    -- the comma at the top is the first character, or stands behind it
    cases front with
    | nil =>
      obtain ⟨rfl, rfl⟩ := List.cons.inj h
      exact hc rfl
    | cons c' front =>
      obtain ⟨rfl, hrest⟩ := List.cons.inj h
      exact hcs front back hrest

theorem whole_append {s : Scan} {xs ys : List Char} :
    Whole s (xs ++ ys) ↔ Whole s xs ∧ Whole (s.behind xs) ys := by
  induction xs generalizing s with
  | nil => exact ⟨fun h => ⟨whole_nil s, h⟩, And.right⟩
  | cons c xs ih =>
    rw [List.cons_append, whole_cons, whole_cons, ih, and_assoc]
    rfl

theorem whole_blanks {w : List Char} (hw : Text.AreBlank w) (s : Scan) : Whole s w := by
  intro front back h
  have hcomma : Text.isBlank ',' = true := hw ',' (by rw [h]; simp)
  cases hcomma

instance decidableWhole : (s : Scan) → (cs : List Char) → Decidable (Whole s cs)
  | s, [] => isTrue (whole_nil s)
  | s, c :: cs =>
    have := decidableWhole (s.step c) cs
    decidable_of_iff _ whole_cons.symm

/-- Blanks around a part change neither of what a scan says about it. -/
theorem whole_between {w w' : List Char} (hw : Text.AreBlank w) (hw' : Text.AreBlank w')
    (cs : List Char) :
    (Whole {} (w ++ cs ++ w') ↔ Whole {} cs) ∧
      Scan.behind {} (w ++ cs ++ w') = Scan.behind {} cs := by
  have hfront : Scan.behind {} w = {} := Scan.sound_start.behind_blanks hw
  constructor
  · rw [whole_append, whole_append, hfront]
    simp [whole_blanks hw, whole_blanks hw']
  · rw [Scan.behind_append, Scan.behind_append, hfront,
      (Scan.sound_start.behind cs).behind_blanks hw']

/-! ### Pieces -/

/-- A text without a separating comma is one piece. -/
theorem pieces_of_whole {s : Scan} {cs : List Char} (h : Whole s cs) : pieces s cs = [cs] := by
  induction cs generalizing s with
  | nil => rfl
  | cons c cs ih =>
    obtain ⟨hc, hcs⟩ := whole_cons.mp h
    rw [pieces, if_neg, ih hcs]
    rintro ⟨rfl, htop⟩
    rw [hc rfl] at htop
    cases htop

/-- The first separating comma ends the first piece, and the scan starts anew behind it. -/
theorem pieces_append_comma {s : Scan} {front : List Char} (h : Whole s front)
    (hclosed : (s.behind front).atTop = true) (back : List Char) :
    pieces s (front ++ ',' :: back) = front :: pieces {} back := by
  induction front generalizing s with
  | nil =>
    have hstart : s = {} := Scan.atTop_iff.mp hclosed
    rw [List.nil_append, pieces, if_pos ⟨rfl, hclosed⟩, hstart]
  | cons c front ih =>
    obtain ⟨hc, hfront⟩ := whole_cons.mp h
    rw [List.cons_append, pieces, if_neg, ih hfront hclosed]
    rintro ⟨rfl, htop⟩
    rw [hc rfl] at htop
    cases htop

/-- A text has a first separating comma or none. -/
theorem whole_or_comma (s : Scan) (cs : List Char) :
    Whole s cs ∨ ∃ front back, cs = front ++ ',' :: back ∧ Whole s front ∧
      (s.behind front).atTop = true := by
  induction cs generalizing s with
  | nil => exact Or.inl (whole_nil s)
  | cons c cs ih =>
    by_cases hc : c = ',' ∧ s.atTop = true
    · exact Or.inr ⟨[], cs, by rw [hc.1]; rfl, whole_nil s, hc.2⟩
    · have hhead : c = ',' → s.atTop = false := fun heq =>
        Bool.eq_false_iff.mpr fun htop => hc ⟨heq, htop⟩
      rcases ih (s.step c) with h | ⟨front, back, rfl, hfront, hclosed⟩
      · exact Or.inl (whole_cons.mpr ⟨hhead, h⟩)
      · exact Or.inr ⟨c :: front, back, rfl, whole_cons.mpr ⟨hhead, hfront⟩, hclosed⟩

/-! ### Entries -/

/-- The entries of a list, as characters. -/
def entries (cs : List Char) : List (List Char) :=
  ((pieces {} cs).map Text.trimChars).filter (!·.isEmpty)

theorem split_eq (text : String) : split text = (entries text.toList).map String.ofList := rfl

/-- One piece is one entry, or none if it is blank. -/
theorem entries_of_whole {cs : List Char} (h : Whole {} cs) :
    entries cs = if Text.trimChars cs = [] then [] else [Text.trimChars cs] := by
  rw [entries, pieces_of_whole h, List.map_singleton]
  by_cases hempty : Text.trimChars cs = [] <;> simp [hempty]

theorem entries_append_comma {front : List Char} (h : Whole {} front)
    (hclosed : (Scan.behind {} front).atTop = true) (back : List Char) :
    entries (front ++ ',' :: back) = entries front ++ entries back := by
  rw [entries, pieces_append_comma h hclosed, ← List.singleton_append, ← pieces_of_whole h,
    List.map_append, List.filter_append]
  rfl

/-- **An atomic part** of a list: trimmed, some text, and without a comma that stands outside
parentheses and quotes. -/
structure IsAtomic (part : String) : Prop where
  trimmed : Text.trim part = part
  nonempty : part ≠ ""
  whole : Whole {} part.toList

instance (part : String) : Decidable (IsAtomic part) :=
  decidable_of_iff (Text.trim part = part ∧ part ≠ "" ∧ Whole {} part.toList)
    ⟨fun h => ⟨h.1, h.2.1, h.2.2⟩, fun h => ⟨h.trimmed, h.nonempty, h.whole⟩⟩

/-- **A closed part**: its parentheses and quotes are closed at its end. -/
def IsClosed (part : String) : Prop := (Scan.behind {} part.toList).atTop = true

instance (part : String) : Decidable (IsClosed part) := inferInstanceAs (Decidable (_ = true))

/-- **A list that is written out**: its parts with commas between them, and any blanks around each
comma. -/
inductive Written : List String → String → Prop
  | nil : Written [] ""
  | single (part : String) : Written [part] part
  | cons {part next w w' text : String} {parts : List String} (hw : Text.AreBlank w.toList)
      (hw' : Text.AreBlank w'.toList) (hrest : Written (next :: parts) text) :
      Written (part :: next :: parts) (part ++ w ++ "," ++ w' ++ text)

/-- A piece that is not all blank is an atomic part when it is trimmed, and closed if it was. -/
theorem atomic_of_piece {cs : List Char} (h : Whole {} cs) {entry : List Char}
    (hentry : entry ∈ entries cs) :
    IsAtomic (String.ofList entry) ∧
      ((Scan.behind {} cs).atTop = true → IsClosed (String.ofList entry)) := by
  obtain ⟨hne, rfl⟩ : Text.trimChars cs ≠ [] ∧ entry = Text.trimChars cs := by
    rw [entries_of_whole h] at hentry
    split at hentry
    · cases hentry
    · next hne => exact ⟨hne, List.mem_singleton.mp hentry⟩
  -- the blanks around it change neither the depth nor the quote
  obtain ⟨w, w', hw, hw', hcs⟩ := Text.exists_blanks_trimChars cs
  obtain ⟨hwhole, hbehind⟩ := whole_between hw hw' (Text.trimChars cs)
  rw [← hcs] at hwhole hbehind
  refine ⟨⟨?_, ?_, ?_⟩, ?_⟩
  · rw [Text.trim, String.toList_ofList, Text.trimChars_trimChars]
  · exact mt String.ofList_eq_empty_iff.mp hne
  · rw [String.toList_ofList]
    exact hwhole.mp h
  · intro hclosed
    rwa [IsClosed, String.toList_ofList, ← hbehind]

/-- **What splitting yields**: atomic parts, and closed ones in front of the last. -/
theorem atomic_of_mem_entries (cs : List Char) :
    (∀ entry ∈ entries cs, IsAtomic (String.ofList entry)) ∧
      ∀ entry ∈ (entries cs).dropLast, IsClosed (String.ofList entry) := by
  -- on the length, since the scan starts anew behind each separating comma
  induction hn : cs.length using Nat.strong_induction_on generalizing cs with
  | _ n ih =>
    rcases whole_or_comma {} cs with hwhole | ⟨front, back, rfl, hfront, hclosed⟩
    · -- one piece, and so one entry at most
      refine ⟨fun entry hentry => (atomic_of_piece hwhole hentry).1, fun entry hentry => ?_⟩
      rw [entries_of_whole hwhole] at hentry
      split at hentry <;> cases hentry
    · have hlt : back.length < n := by
        rw [← hn, List.length_append, List.length_cons]
        omega
      obtain ⟨hatomic, hdrop⟩ := ih back.length hlt back rfl
      have hfirst : ∀ entry ∈ entries front,
          IsAtomic (String.ofList entry) ∧ IsClosed (String.ofList entry) := fun entry hentry =>
        (atomic_of_piece hfront hentry).imp_right (· hclosed)
      rw [entries_append_comma hfront hclosed]
      refine ⟨fun entry hentry => ?_, fun entry hentry => ?_⟩
      · rcases List.mem_append.mp hentry with hentry | hentry
        · exact (hfirst entry hentry).1
        · exact hatomic entry hentry
      · -- an entry in front of the last is the first one, or stands in front of the last behind it
        rw [List.dropLast_append] at hentry
        split at hentry
        · exact (hfirst entry (List.dropLast_subset _ hentry)).2
        · rcases List.mem_append.mp hentry with hentry | hentry
          · exact (hfirst entry hentry).2
          · exact hdrop entry hentry

/-! ### Parts come back -/

/-- An atomic part is its own entry, also between blanks. -/
theorem entries_between {part : String} (h : IsAtomic part) {w w' : List Char}
    (hw : Text.AreBlank w) (hw' : Text.AreBlank w') :
    Whole {} (w ++ part.toList ++ w') ∧ entries (w ++ part.toList ++ w') = [part.toList] := by
  have hwhole := (whole_between hw hw' part.toList).1.mpr h.whole
  have htrim : Text.trimChars part.toList = part.toList := by
    have := congrArg String.toList h.trimmed
    rwa [Text.trim, String.toList_ofList] at this
  refine ⟨hwhole, ?_⟩
  rw [entries_of_whole hwhole, Text.trimChars_between hw hw', htrim,
    if_neg (mt String.toList_eq_nil_iff.mp h.nonempty)]

/-- **The parts of a list come back**, whatever blanks stand in front of it. -/
theorem entries_written {parts : List String} {text : String} (h : Written parts text)
    (hatomic : ∀ part ∈ parts, IsAtomic part) (hclosed : ∀ part ∈ parts.dropLast, IsClosed part)
    {lead : List Char} (hlead : Text.AreBlank lead) :
    entries (lead ++ text.toList) = parts.map String.toList := by
  -- the blanks behind a comma are in front of what follows, so they go along in the induction
  induction h generalizing lead with
  | nil =>
    rw [String.toList_empty, List.append_nil, entries_of_whole (whole_blanks hlead {}),
      if_pos (Text.trimChars_of_areBlank hlead)]
    rfl
  | single part =>
    have h := (entries_between (hatomic part List.mem_cons_self) hlead Text.areBlank_nil).2
    rwa [List.append_nil] at h
  | @cons part next w w' text parts hw hw' _ ih =>
    have hpart : IsAtomic part := hatomic part List.mem_cons_self
    have hend : IsClosed part := hclosed part List.mem_cons_self
    obtain ⟨hwhole, hentries⟩ := entries_between hpart hlead hw
    have htop : (Scan.behind {} (lead ++ part.toList ++ w.toList)).atTop = true := by
      rw [(whole_between hlead hw part.toList).2]
      exact hend
    have hsplit : lead ++ (part ++ w ++ "," ++ w' ++ text).toList =
        (lead ++ part.toList ++ w.toList) ++ ',' :: (w'.toList ++ text.toList) := by
      simp
    -- the comma ends the first part, and the list goes on behind it
    rw [hsplit, entries_append_comma hwhole htop, hentries,
      ih (fun part h => hatomic part (List.mem_cons_of_mem _ h))
        (fun part h => hclosed part (List.mem_cons_of_mem _ h)) hw']
    rfl

theorem split_written {parts : List String} {text : String} (h : Written parts text)
    (hatomic : ∀ part ∈ parts, IsAtomic part) (hclosed : ∀ part ∈ parts.dropLast, IsClosed part) :
    split text = parts := by
  have hentries := entries_written h hatomic hclosed Text.areBlank_nil
  rw [List.nil_append] at hentries
  rw [split_eq, hentries, List.map_map]
  exact (List.map_congr_left fun part _ => String.ofList_toList).trans (List.map_id _)

/-- Joining writes a list out, with one blank behind each comma. -/
theorem written_join (parts : List String) : Written parts (Text.join ", " parts) := by
  induction parts with
  | nil => exact .nil
  | cons part parts ih =>
    cases parts with
    | nil => exact .single part
    | cons next parts =>
      have hblank : Text.AreBlank " ".toList := by
        intro c hc
        rw [List.mem_singleton.mp hc]
        rfl
      have hcomma : part ++ ", " = part ++ "" ++ "," ++ " " := by
        rw [String.append_empty, String.append_assoc]
        rfl
      rw [Text.join_cons (List.cons_ne_nil _ _), hcomma]
      exact .cons Text.areBlank_nil hblank ih

theorem atomic_of_mem_split (text : String) :
    (∀ part ∈ split text, IsAtomic part) ∧ ∀ part ∈ (split text).dropLast, IsClosed part := by
  obtain ⟨hatomic, hclosed⟩ := atomic_of_mem_entries text.toList
  rw [split_eq, ← List.map_dropLast]
  exact ⟨List.forall_mem_map.mpr hatomic, List.forall_mem_map.mpr hclosed⟩

/-- **Splitting and joining.** Whatever the text, splitting it yields atomic parts, closed ones in
front of the last; each of them is a list of itself alone, and joined again they are a list of the
same parts. And every list of atomic parts that are closed in front of the last comes back from its
text, with any blanks around its commas. -/
theorem split_inverts_join :
    (∀ text, (∀ part ∈ split text, IsAtomic part ∧ split part = [part]) ∧
      (∀ part ∈ (split text).dropLast, IsClosed part) ∧
      split (Text.join ", " (split text)) = split text) ∧
    ∀ parts text, (∀ part ∈ parts, IsAtomic part) → (∀ part ∈ parts.dropLast, IsClosed part) →
      Written parts text → split text = parts := by
  refine ⟨fun text => ?_, fun parts text hatomic hclosed h => split_written h hatomic hclosed⟩
  obtain ⟨hatomic, hclosed⟩ := atomic_of_mem_split text
  refine ⟨fun part hpart => ⟨hatomic part hpart, ?_⟩, hclosed,
    split_written (written_join _) hatomic hclosed⟩
  exact split_written (.single part) (List.forall_mem_singleton.mpr (hatomic part hpart)) nofun

/-- Commas in parentheses and in each of the three quotes, a quote inside another, a parenthesis that
closes nothing, and a quote that is never closed. -/
theorem split_inverts_join_nested :
    let parts := ["CONCAT(a, ',')", "\"c, 'd\"", "\x60e, (\x60", "b)", "'x, y"]
    let text := "CONCAT(a, ',')" ++ "\t" ++ "," ++ "\n " ++ ("\"c, 'd\"" ++ "" ++ "," ++ " " ++
      ("\x60e, (\x60" ++ " " ++ "," ++ "" ++ ("b)" ++ "" ++ "," ++ " " ++ "'x, y")))
    (∀ part ∈ parts, IsAtomic part) ∧ (∀ part ∈ parts.dropLast, IsClosed part) ∧
      Written parts text ∧ split text = parts := by
  intro parts text
  have hatomic : ∀ part ∈ parts, IsAtomic part := by decide +kernel
  have hclosed : ∀ part ∈ parts.dropLast, IsClosed part := by decide +kernel
  have hwritten : Written parts text :=
    .cons (by decide) (by decide) (.cons (by decide) (by decide)
      (.cons (by decide) (by decide) (.cons (by decide) (by decide) (.single _))))
  exact ⟨hatomic, hclosed, hwritten, split_inverts_join.2 parts text hatomic hclosed hwritten⟩

end SqlCompose.Names

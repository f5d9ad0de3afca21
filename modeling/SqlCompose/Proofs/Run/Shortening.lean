import Mathlib.Data.Nat.Basic
import Mathlib.Logic.ExistsUnique
import Mathlib.Order.Bounds.Basic
import SqlCompose.Run.Settings
/-!
# What stands in the log

SQL text that is too long for the log is cut at the last position between two characters that
fits. The cut is found byte by byte, from the limit backwards; what a reader of the log wants to
know is said in characters: it is the longest beginning of the text, in whole characters, whose
bytes fit (`Text.IsLongestLead`).

The two are tied together by the positions between characters, which are exactly the sizes of the
beginnings of the text (`Text.isValid_iff_exists_lead`). The search passes over none of them
(`Text.isGreatest_lastBoundary`), and of two beginnings the one with no more bytes is a beginning
of the other (`Text.lead_of_size_le`). So the greatest position is the end of the longest
beginning (`Text.isLongestLead_within`).
-/

namespace SqlCompose

namespace Text

/-- **The longest beginning within a number of bytes**: a text starts with it, character by
character, its bytes fit, and any other such beginning is a beginning of it. -/
structure IsLongestLead (s : String) (room : Nat) (p : String) : Prop where
  lead : p.toList <+: s.toList
  fits : p.utf8ByteSize ≤ room
  longest : ∀ q : String, q.toList <+: s.toList → q.utf8ByteSize ≤ room → q.toList <+: p.toList

variable {s p q : String} {room : Nat}

/-- There is only one. -/
theorem IsLongestLead.unique (hp : IsLongestLead s room p) (hq : IsLongestLead s room q) :
    p = q := by
  have hpq : p.toList <+: q.toList := hq.longest p hp.lead hp.fits
  have hqp : q.toList <+: p.toList := hp.longest q hq.lead hq.fits
  exact String.toList_inj.mp (hpq.eq_of_length_le hqp.length_le)

/-! ### Beginnings of a text -/

/-- What stands behind a beginning. -/
theorem exists_eq_append_of_lead (h : p.toList <+: s.toList) : ∃ rest, s = p ++ rest := by
  obtain ⟨cs, hcs⟩ := h
  refine ⟨String.ofList cs, String.toList_inj.mp ?_⟩
  rw [String.toList_append, String.toList_ofList, hcs]

theorem lead_append (p rest : String) : p.toList <+: (p ++ rest).toList := by
  rw [String.toList_append]
  exact List.prefix_append _ _

/-- A beginning has no more bytes than the text. -/
theorem size_le_of_lead (h : p.toList <+: s.toList) : p.utf8ByteSize ≤ s.utf8ByteSize := by
  obtain ⟨rest, rfl⟩ := exists_eq_append_of_lead h
  rw [String.utf8ByteSize_append]
  exact Nat.le_add_right _ _

/-- The first character of a text is a beginning. -/
theorem lead_singleton {c : Char} (h : c ∈ s.toList.head?) :
    (String.singleton c).toList <+: s.toList := by
  obtain ⟨cs, hcs⟩ := List.head?_eq_some_iff.mp h
  rw [hcs, String.toList_singleton]
  exact List.prefix_append [c] cs

/-- Of two beginnings, the one with no more bytes is a beginning of the other. -/
theorem lead_of_size_le (hp : p.toList <+: s.toList) (hq : q.toList <+: s.toList)
    (h : q.utf8ByteSize ≤ p.utf8ByteSize) : q.toList <+: p.toList := by
  rcases List.prefix_or_prefix_of_prefix hq hp with hqp | hpq
  · exact hqp
  · -- otherwise there is nothing behind `p` in `q`, since that would take room
    obtain ⟨rest, rfl⟩ := exists_eq_append_of_lead hpq
    rw [String.utf8ByteSize_append] at h
    have hrest : rest = "" := String.utf8ByteSize_eq_zero_iff.mp (by omega)
    calc (p ++ rest).toList
      _ = p.toList := by rw [hrest, String.append_empty]
      _ <+: p.toList := List.prefix_refl _

/-- **The positions between characters** are the sizes of the beginnings. -/
theorem isValid_iff_exists_lead {n : Nat} :
    (String.Pos.Raw.mk n).IsValid s ↔ ∃ p : String, p.toList <+: s.toList ∧ p.utf8ByteSize = n := by
  rw [String.Pos.Raw.isValid_iff_exists_append]
  constructor
  · rintro ⟨p, rest, rfl, hn⟩
    exact ⟨p, lead_append p rest, (congrArg String.Pos.Raw.byteIdx hn).symm⟩
  · rintro ⟨p, hp, rfl⟩
    obtain ⟨rest, rfl⟩ := exists_eq_append_of_lead hp
    exact ⟨p, rest, rfl, rfl⟩

/-! ### The search for the last position -/

/-- **The search ends at the last position between characters** that is not behind the byte
where it starts. -/
theorem isGreatest_lastBoundary (s : String) (n : Nat) :
    IsGreatest {m | m ≤ n ∧ (String.Pos.Raw.mk m).IsValid s} (lastBoundary s n).offset.byteIdx := by
  induction n with
  | zero =>
    refine ⟨⟨le_rfl, String.Pos.Raw.isValid_zero⟩, ?_⟩
    rintro m ⟨hm, -⟩
    exact hm
  | succ n ih =>
    rw [lastBoundary]
    split
    · next h =>
      refine ⟨⟨le_rfl, h⟩, ?_⟩
      rintro m ⟨hm, -⟩
      exact hm
    · next h =>
      obtain ⟨⟨hle, hvalid⟩, hgreatest⟩ := ih
      refine ⟨⟨Nat.le_succ_of_le hle, hvalid⟩, ?_⟩
      rintro m ⟨hm, hmvalid⟩
      -- the byte where the search starts is inside a character, so `m` is in front of it
      have hne : m ≠ n + 1 := by
        rintro rfl
        exact h hmvalid
      exact hgreatest ⟨by omega, hmvalid⟩

/-- The text in front of a position has as many bytes as the position says. -/
theorem size_sliceTo (pos : s.Pos) : (s.sliceTo pos).copy.utf8ByteSize = pos.offset.byteIdx :=
  (congrArg String.Pos.Raw.byteIdx pos.splits.offset_eq_rawEndPos).symm

theorem lead_sliceTo (pos : s.Pos) : (s.sliceTo pos).copy.toList <+: s.toList := by
  have hs : (s.sliceTo pos).copy ++ (s.sliceFrom pos).copy = s := String.sliceTo_append_sliceFrom
  calc (s.sliceTo pos).copy.toList
    _ <+: ((s.sliceTo pos).copy ++ (s.sliceFrom pos).copy).toList := lead_append _ _
    _ = s.toList := by rw [hs]

/-! ### The cut -/

/-- A text that fits is its own longest beginning. -/
theorem isLongestLead_self (h : s.utf8ByteSize ≤ room) : IsLongestLead s room s :=
  ⟨List.prefix_refl _, h, fun _ hq _ => hq⟩

/-- **A cut text is the longest beginning that fits.** -/
theorem isLongestLead_within (room : Nat) (s : String) : IsLongestLead s room (within room s) := by
  unfold within
  split
  · next h => exact isLongestLead_self h
  · obtain ⟨⟨hle, -⟩, hgreatest⟩ := isGreatest_lastBoundary s room
    have hlead := lead_sliceTo (lastBoundary s room)
    refine ⟨hlead, ?_, ?_⟩
    · rw [size_sliceTo]
      exact hle
    · intro q hq hfits
      -- the end of `q` is a position between characters, so the search does not pass over it
      have hend : q.utf8ByteSize ≤ (lastBoundary s room).offset.byteIdx :=
        hgreatest ⟨hfits, isValid_iff_exists_lead.mpr ⟨q, hq, rfl⟩⟩
      refine lead_of_size_le hlead hq ?_
      rw [size_sliceTo]
      exact hend

/-- The second byte is inside the second character. -/
example : within 2 "h\u00E9llo" = "h" := by decide

/-- The end of the longest beginning is the last position between characters that fits. -/
theorem IsLongestLead.isGreatest (h : IsLongestLead s room p) :
    IsGreatest {n | n ≤ room ∧ (String.Pos.Raw.mk n).IsValid s} p.utf8ByteSize := by
  refine ⟨⟨h.fits, isValid_iff_exists_lead.mpr ⟨p, h.lead, rfl⟩⟩, ?_⟩
  rintro n ⟨hn, hvalid⟩
  obtain ⟨q, hq, rfl⟩ := isValid_iff_exists_lead.mp hvalid
  exact size_le_of_lead (h.longest q hq hn)

/-- The longest beginning is empty exactly if not even the first character fits. -/
theorem IsLongestLead.eq_empty_iff (h : IsLongestLead s room p) :
    p = "" ↔ ∀ c ∈ s.toList.head?, room < c.utf8Size := by
  constructor
  · rintro rfl c hc
    by_contra hfits
    -- a first character that fits would be a beginning of the empty text
    have hempty := h.longest (String.singleton c) (lead_singleton hc) (by simpa using hfits)
    rw [String.toList_singleton] at hempty
    exact absurd (List.prefix_nil.mp hempty) (List.cons_ne_nil c [])
  · intro hfirst
    by_contra hne
    -- otherwise the first character of `p` is the one of the text, and fits
    obtain ⟨c, cs, hcs⟩ := List.exists_cons_of_ne_nil (mt String.toList_eq_nil_iff.mp hne)
    have hc : c ∈ p.toList.head? := by rw [hcs]; rfl
    have hroom : room < c.utf8Size := by
      obtain ⟨rest, hrest⟩ := h.lead
      exact hfirst c (by rw [← hrest, hcs]; rfl)
    have hsize : c.utf8Size ≤ p.utf8ByteSize := by
      rw [← String.utf8ByteSize_singleton]
      exact size_le_of_lead (lead_singleton hc)
    exact absurd (Nat.le_trans hsize h.fits) (Nat.not_le.mpr hroom)

end Text

namespace Settings

/-- **A text in the log is cut at the last position between characters that fits**, whatever the
limit is: the search for the cut ends behind the longest beginning, which is empty only if there
is no room for the first character. -/
theorem shorten_at_boundary (settings : Settings) (max : Nat) (sql : String) :
    ∃! p : String, Text.IsLongestLead sql max p ∧
      (p = "" ↔ ∀ c ∈ sql.toList.head?, max < c.utf8Size) ∧
      IsGreatest {n | n ≤ max ∧ (String.Pos.Raw.mk n).IsValid sql} p.utf8ByteSize ∧
      (Text.lastBoundary sql max).offset.byteIdx = p.utf8ByteSize ∧
      { settings with maxSqlLength := some max }.shorten sql =
        if sql.utf8ByteSize ≤ max then sql else p ++ "..." := by
  have hlongest := Text.isLongestLead_within max sql
  have hend : (Text.lastBoundary sql max).offset.byteIdx = (Text.within max sql).utf8ByteSize :=
    (Text.isGreatest_lastBoundary sql max).unique hlongest.isGreatest
  refine ⟨Text.within max sql,
    ⟨hlongest, hlongest.eq_empty_iff, hlongest.isGreatest, hend, ?_⟩, ?_⟩
  · rfl
  · rintro p ⟨hp, -⟩
    exact hp.unique hlongest

end Settings

end SqlCompose

import Mathlib.Data.List.Nodup
import SqlCompose.Proofs.Positional.Scan
import SqlCompose.Proofs.Session.Template
/-!
# Fragments that a scan can read back

A scan finds the placeholders of a filled fragment again if its texts are neutral and if
nothing that follows a slot could be taken for a part of its name. A fragment with both
properties is `Fragment.Readable`. `Fragment.scan_fill` is what such a fragment is good
for: whatever names its slots have been given, the scan puts the markers into the same
template and takes the values of the slots from left to right.
-/

namespace SqlCompose

open Positional

/-- A text that starts with a character that cannot belong to a name. -/
def Positional.Apart (s : String) : Prop :=
  ∃ c cs, s.toList = c :: cs ∧ isNamePart c = false

theorem Positional.Apart.append {s : String} (hs : Apart s) (t : String) : Apart (s ++ t) := by
  obtain ⟨c, cs, hlist, hc⟩ := hs
  refine ⟨c, cs ++ t.toList, ?_, hc⟩
  rw [String.toList_append, hlist, List.cons_append]

namespace Positional

/-- **A delimiter** is neutral, and no name in front of it can run into it. -/
structure Delimits (s : String) : Prop where
  neutral : Neutral s
  apart : Apart s

theorem Delimits.append {s t : String} (hs : Delimits s) (ht : Neutral t) : Delimits (s ++ t) :=
  ⟨hs.neutral.append ht, hs.apart.append t⟩

theorem delimits_blank : Delimits " " := ⟨neutral_blank, _, _, rfl, rfl⟩

theorem delimits_comma : Delimits ", " := ⟨neutral_comma, _, _, rfl, rfl⟩

theorem delimits_closing : Delimits ")" := ⟨neutral_closing, _, _, rfl, rfl⟩

theorem delimits_closing_blank : Delimits ") " := ⟨Clean.neutral (by decide), _, _, rfl, rfl⟩

end Positional

namespace Fragment

/-- Whether no character that could belong to a name stands first. -/
def StartsApart : Fragment → Prop
  | [] => True
  | .text s :: f =>
    match s.toList with
    | [] => StartsApart f
    | c :: _ => isNamePart c = false
  | .slot _ :: _ => True

/-- **Readable fragments.** Every text is neutral, and what stands behind a slot starts
apart from it. -/
def Readable : Fragment → Prop
  | [] => True
  | .text s :: f => Neutral s ∧ Readable f
  | .slot _ :: f => StartsApart f ∧ Readable f

/-! ### Putting fragments together -/

theorem startsApart_text_append {s : String} (hs : Apart s) (f : Fragment) :
    StartsApart (text s ++ f) := by
  obtain ⟨c, cs, hlist, hc⟩ := hs
  change match s.toList with
    | [] => StartsApart f
    | c :: _ => isNamePart c = false
  rw [hlist]
  exact hc

theorem startsApart_text {s : String} (hs : Apart s) : StartsApart (text s) :=
  startsApart_text_append hs []

/-- A fragment that is no text at all is apart from everything. -/
theorem startsApart_of_isEmpty {f : Fragment} (h : isEmpty f = true) : StartsApart f := by
  induction f with
  | nil => exact trivial
  | cons p f ih =>
    cases p with
    | text s =>
      obtain ⟨rfl, hf⟩ : s = "" ∧ isEmpty f = true := by simpa [isEmpty] using h
      exact ih hf
    | slot v => simp [isEmpty] at h

theorem StartsApart.append {f g : Fragment} (hf : StartsApart f) (hg : StartsApart g) :
    StartsApart (f ++ g) := by
  induction f with
  | nil => exact hg
  | cons p f ih =>
    cases p with
    | slot v => exact trivial
    | text s =>
      rw [List.cons_append]
      unfold StartsApart at hf ⊢
      split
      · -- behind an empty text the next piece comes first
        next hs =>
        rw [hs] at hf
        exact ih hf
      · next c cs hs =>
        rw [hs] at hf
        exact hf

theorem readable_text {s : String} (hs : Neutral s) : Readable (text s) := ⟨hs, trivial⟩

theorem readable_slot (v : Value) : Readable (slot v) := ⟨trivial, trivial⟩

theorem Readable.text_append {s : String} {f : Fragment} (hs : Neutral s) (hf : Readable f) :
    Readable (text s ++ f) := ⟨hs, hf⟩

/-- A readable fragment may stand behind another if it starts apart. -/
theorem Readable.append {f g : Fragment} (hf : Readable f) (hg : Readable g)
    (hstart : StartsApart g) : Readable (f ++ g) := by
  induction f with
  | nil => exact hg
  | cons p f ih =>
    cases p with
    | text s => exact ⟨hf.1, ih hf.2⟩
    | slot v => exact ⟨hf.1.append hstart, ih hf.2⟩

/-- A readable fragment with text behind it. -/
theorem Readable.append_text {f : Fragment} (hf : Readable f) {s : String} (hs : Delimits s) :
    Readable (f ++ text s) :=
  hf.append (readable_text hs.neutral) (startsApart_text hs.apart)

/-- A readable fragment between two texts. -/
theorem Readable.enclosed {f : Fragment} (hf : Readable f) {s s' : String} (hs : Neutral s)
    (hs' : Delimits s') : Readable (text s ++ f ++ text s') :=
  (Readable.text_append hs hf).append_text hs'

/-- Readable fragments with a delimiter between neighbours. -/
theorem readable_join {sep : String} (hsep : Delimits sep) {fs : List Fragment}
    (h : ∀ f ∈ fs, Readable f) : Readable (join sep fs) := by
  induction fs with
  | nil => exact trivial
  | cons f rest ih =>
    have hf : Readable f := h f List.mem_cons_self
    have hrest : Readable (join sep rest) := ih fun g hg => h g (List.mem_cons_of_mem f hg)
    cases rest with
    | nil => exact hf
    | cons g rest =>
      change Readable (f ++ text sep ++ join sep (g :: rest))
      -- between two neighbours there is the delimiter
      rw [List.append_assoc]
      exact hf.append (Readable.text_append hsep.neutral hrest)
        (startsApart_text_append hsep.apart _)

end Fragment

/-! ### Scanning a filled fragment -/

namespace Positional

/-- The marker of the placeholder in front of which `i` others stand. -/
def marker (style : PlaceholderStyle) (i : Nat) : String :=
  match style with
  | .question => "?"
  | .dollar => "$" ++ toString (i + 1)

/-- The markers of `n` placeholders, from left to right. -/
def markers (style : PlaceholderStyle) (n : Nat) : List String :=
  (List.range n).map (marker style)

/-- The names that a scan has numbered behind some placeholders: none if it writes question
marks. -/
def numberedBehind (style : PlaceholderStyle) (names : List String) : List String :=
  match style with
  | .question => []
  | .dollar => names

/-- A name that comes for the first time gets the next marker, and its value is given. -/
theorem mark_of_notMem {params : Params} {style : PlaceholderStyle} {names : List String}
    {name : String} {v : Value} (hvalue : params.get? name = some v) (hnew : name ∉ names) :
    mark params style (numberedBehind style names) name =
      .ok (⟨(marker style names.length).toList, [v]⟩, numberedBehind style (names ++ [name])) := by
  unfold mark
  rw [hvalue]
  cases style with
  | question => simp [numberedBehind, marker]
  | dollar =>
    have hindex : names.idxOf name = names.length := List.idxOf_eq_length hnew
    simp [numberedBehind, marker, hindex]

end Positional

namespace Fragment

/-- The text of a fragment that starts apart does so as well, if placeholders stand in its
slots. -/
theorem StartsApart.head_fill {f : Fragment} (hf : StartsApart f) {ns : List Nat}
    (hlen : ns.length = f.values.length) {c : Char}
    (hc : (f.template.fill (ns.map placeholderName)).toList.head? = some c) :
    isNamePart c = false := by
  induction f with
  | nil => simp [template, Template.fill] at hc
  | cons p f ih =>
    cases p with
    | text s =>
      change (s ++ (template f).fill (ns.map placeholderName)).toList.head? = some c at hc
      rw [String.toList_append] at hc
      unfold StartsApart at hf
      split at hf
      · next hs =>
        rw [hs, List.nil_append] at hc
        exact ih hf hlen hc
      · next c' cs hs =>
        rw [hs] at hc
        cases hc
        exact hf
    | slot v =>
      cases ns with
      | nil => cases hlen
      | cons n ns =>
        -- a placeholder starts with a colon
        change (placeholderName n ++ (template f).fill (ns.map placeholderName)).toList.head? =
          some c at hc
        rw [placeholderName, String.append_assoc, String.toList_append] at hc
        cases hc
        rfl

/-- **Reading a fragment back.** If placeholders with values stand in the slots, the scan
puts markers into the same template and gives the values of the slots in order. -/
theorem scan_fill {params : Params} {style : PlaceholderStyle} {f : Fragment} (hf : Readable f)
    (before : List Nat) {ns : List Nat} (hlen : ns.length = f.values.length)
    (hvalues : ∀ e ∈ (ns.map placeholderName).zip f.values, params.get? e.1 = some e.2)
    (hdistinct : (before ++ ns).Nodup) :
    scan params style ⟨.plain, numberedBehind style (before.map placeholderName)⟩
        (f.template.fill (ns.map placeholderName)).toList =
      .ok ⟨(f.template.fill ((List.range' before.length ns.length).map (marker style))).toList,
        f.values⟩ := by
  induction f generalizing before ns with
  | nil => rfl
  | cons p f ih =>
    cases p with
    | text s =>
      change scan params style _ (s ++ (template f).fill (ns.map placeholderName)).toList =
        .ok ⟨(s ++ (template f).fill _).toList, values f⟩
      rw [String.toList_append, scan_neutral _ hf.1, ih hf.2 before hlen hvalues hdistinct,
        String.toList_append]
      rfl
    | slot v =>
      cases ns with
      | nil => cases hlen
      | cons n ns =>
        have hlen' : ns.length = (values f).length := Nat.succ.inj hlen
        have hvalue : params.get? (placeholderName n) = some v :=
          hvalues (placeholderName n, v) List.mem_cons_self
        -- the name has not been marked yet, as no number is given twice
        have hnew : placeholderName n ∉ before.map placeholderName := by
          intro hmem
          obtain ⟨m, hm, heq⟩ := List.mem_map.mp hmem
          have hdisjoint := (List.nodup_append'.mp hdistinct).2.2
          exact hdisjoint (placeholderName_injective heq ▸ hm) List.mem_cons_self
        have hrest := ih hf.2 (before ++ [n]) hlen'
          (fun e he => hvalues e (List.mem_cons_of_mem _ he)) (by simpa using hdistinct)
        change scan params style _
            (placeholderName n ++ (template f).fill (ns.map placeholderName)).toList =
          .ok ⟨(marker style before.length ++ (template f).fill
            ((List.range' (before.length + 1) ns.length).map (marker style))).toList, v :: values f⟩
        rw [String.toList_append, scan_placeholder _ n fun c hc => hf.1.head_fill hlen' hc,
          mark_of_notMem hvalue hnew, String.toList_append, List.length_map]
        rw [List.map_append, List.map_singleton, List.length_append, List.length_singleton]
          at hrest
        change (scan params style ⟨.plain, numberedBehind style _⟩ _).map _ = _
        rw [hrest]
        rfl

end Fragment

end SqlCompose

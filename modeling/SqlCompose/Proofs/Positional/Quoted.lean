import SqlCompose.Proofs.Dialect.Quoting
import SqlCompose.Proofs.Positional.Lexeme
import SqlCompose.Proofs.Text.Pieces
/-!
# Quoted names and the scan for placeholders

A dialect quotes a name part by part, and the scan for positional markers passes over quoted
runs; both have to mean the same by a quoted run. Text is inert (`Positional.Inert`) if the scan
copies it and goes on behind it as if it had not been there. Neutral text is inert, but it has no
colons. A name between quotes may have some: everything up to the closing quote is copied, and
the closing quote is where the name ends, since the name itself has none
(`Positional.inert_wrapped`).

`Dialect.quoted_inert` puts the parts together. Between them stand points, and a bare star is not
quoted at all; all of this is neutral.
-/

namespace SqlCompose

namespace Positional

/-- **Inert text** is copied, and then the scan goes on as if the text had not been there, with
any parameters, in any style and whatever has been numbered. -/
def Inert (s : String) : Prop :=
  ∀ (params : Params) (style : PlaceholderStyle) (numbered : List String) (cs : List Char),
    scan params style ⟨.plain, numbered⟩ (s.toList ++ cs) =
      (scan params style ⟨.plain, numbered⟩ cs).map (Output.before ⟨s.toList, []⟩)

theorem Neutral.inert {s : String} (hs : Neutral s) : Inert s :=
  fun _ _ numbered cs => scan_neutral numbered hs cs

theorem Inert.append {s t : String} (hs : Inert s) (ht : Inert t) : Inert (s ++ t) := by
  intro params style numbered cs
  rw [String.toList_append, List.append_assoc, hs, ht, Output.map_before_before]
  rfl

theorem inert_join {sep : String} (hsep : Inert sep) {parts : List String}
    (h : ∀ part ∈ parts, Inert part) : Inert (Text.join sep parts) := by
  induction parts with
  | nil => exact neutral_empty.inert
  | cons s rest ih =>
    have hs : Inert s := h s List.mem_cons_self
    have hrest : Inert (Text.join sep rest) := ih fun s' hs' => h s' (List.mem_cons_of_mem s hs')
    cases rest with
    | nil => exact hs
    | cons s' rest => exact (hs.append hsep).append hrest

/-- **Text between quotes** is inert, whatever it is, if it does not have the quote character. -/
theorem inert_wrapped {q : Char} (hq : isQuote q = true) {s : String} (hs : q ∉ s.toList) :
    Inert (String.ofList [q] ++ s ++ String.ofList [q]) := by
  intro params style numbered cs
  have hlist : (String.ofList [q] ++ s ++ String.ofList [q]).toList ++ cs =
      q :: (s.toList ++ q :: cs) := by simp
  have hopen : step params style ⟨.plain, numbered⟩ q =
      .ok (⟨[q], []⟩, ⟨.quoted q, numbered⟩) := by
    simp [step, plainStep, hq]
  -- the next quote character is the one behind the text
  have hinside : ∀ c ∈ s.toList, (c != q) = true := by
    intro c hc
    rw [bne_iff_ne]
    rintro rfl
    exact hs hc
  have hclose : ∀ c ∈ (q :: cs).head?, (c != q) = false := by simp
  obtain ⟨htake, hdrop⟩ := Text.takeWhile_run hinside hclose
  rw [hlist, scan_of_step hopen, scan_quoted, htake, hdrop, Output.map_before_before]
  simp [Output.before]

/-- Inert text in front of a statement is in front of its translation. -/
theorem Inert.toPositional_append {s : String} (hs : Inert s) (params : Params)
    (style : PlaceholderStyle) (rest : String) :
    params.toPositional (s ++ rest) style =
      (params.toPositional rest style).map fun r => ⟨s ++ r.sql, r.values⟩ := by
  rw [Params.toPositional, Params.toPositional, String.toList_append, hs]
  cases scan params style ⟨.plain, []⟩ rest.toList with
  | error e => rfl
  | ok out =>
    change Except.ok (⟨String.ofList (s.toList ++ out.text), [] ++ out.values⟩ : Positional) =
      .ok ⟨s ++ String.ofList out.text, out.values⟩
    rw [String.ofList_append, String.ofList_toList, List.nil_append]

end Positional

namespace Dialect

open Positional

theorem inert_wrapTablePart {q : Char} (hq : isQuote q = true) {part : String}
    (hpart : q ∉ part.toList) : Inert (wrapTablePart q part) := by
  rw [wrapTablePart_of_notMem hpart]
  exact inert_wrapped hq hpart

theorem inert_wrapColumnPart {q : Char} (hq : isQuote q = true) {part : String}
    (hpart : q ∉ part.toList) : Inert (wrapColumnPart q part) := by
  by_cases hall : part = "*"
  · have hstar : Clean "*" := by decide
    rw [wrapColumnPart, if_pos hall, hall]
    exact hstar.neutral.inert
  · rw [wrapColumnPart, if_neg hall]
    exact inert_wrapTablePart hq hpart

namespace QuotesWith

variable {d : Dialect} {q : Char} (hd : d.QuotesWith q)

include hd

theorem inert_quoteTable {name : String} (hkeep : keepsTable name = false)
    (hname : q ∉ name.toList) : Inert (d.quoteTable name) := by
  have hover : Text.Over (· ≠ q) name := fun c hc hcq => hname (hcq ▸ hc)
  rw [hd.quoteTable_eq hkeep]
  refine inert_join neutral_point.inert fun part hpart => ?_
  obtain ⟨part, hmem, rfl⟩ := List.mem_map.mp hpart
  exact inert_wrapTablePart hd.isQuote fun hq => hover.of_mem_split hmem q hq rfl

theorem inert_quoteColumn {name : String} (hkeep : keepsColumn name = false)
    (hname : q ∉ name.toList) : Inert (d.quoteColumn name) := by
  cases hd.columnCut name with
  | kept hkept =>
    rw [hkept] at hkeep
    cases hkeep
  | @between front back _ _ hquote =>
    -- the part in front is a table name that is not kept either
    have hfront : keepsTable front = false := by
      rw [String.append_assoc] at hkeep
      exact keepsTable_of_append hkeep
    simp only [String.toList_append, List.mem_append, not_or] at hname
    rw [hquote]
    exact ((hd.inert_quoteTable hfront hname.1.1).append neutral_point.inert).append
      (inert_wrapColumnPart hd.isQuote hname.2)
  | whole _ _ hquote =>
    rw [hquote]
    exact inert_wrapColumnPart hd.isQuote hname

end QuotesWith

/-- **A quoted name is inert.** Let a name have neither the quote character of the dialect nor a
mark of an expression or of a quoted name; it may have colons, other quotes, points and blanks.
Then whatever stands behind the quoted name is translated as if it stood alone, with the quoted
name in front of it: the same values, or the same error. -/
theorem quoted_inert {d : Dialect} {q : Char}
    (hd : (d, q) ∈ [(mysql, '\x60'), (postgres, '\x22')]) {name : String}
    (hquote : q ∉ name.toList) (hexpression : '(' ∉ name.toList)
    (hbrackets : ¬['[', '['] <:+: name.toList) (hbraces : ¬['\x7b', '\x7b'] <:+: name.toList)
    (params : Params) (style : PlaceholderStyle) (rest : String) :
    params.toPositional (d.quoteColumn name ++ rest) style =
        (params.toPositional rest style).map (fun r => ⟨d.quoteColumn name ++ r.sql, r.values⟩) ∧
      params.toPositional (d.quoteTable name ++ rest) style =
        (params.toPositional rest style).map fun r => ⟨d.quoteTable name ++ r.sql, r.values⟩ := by
  have hquotes := quotesWith_of_mem hd
  have hcolumn : keepsColumn name = false := by
    rw [← Bool.not_eq_true, keepsColumn_iff, List.singleton_infix_iff]
    exact not_or_intro (not_or_intro hexpression hbrackets) hbraces
  have htable : keepsTable name = false := by
    rw [← Bool.not_eq_true, keepsTable_iff, List.singleton_infix_iff]
    exact not_or_intro hexpression hbraces
  exact ⟨(hquotes.inert_quoteColumn hcolumn hquote).toPositional_append params style rest,
    (hquotes.inert_quoteTable htable hquote).toPositional_append params style rest⟩

/-- A name with colons, both other quotes, a blank and a star, in front of a placeholder. -/
theorem quoted_inert_colons :
    let name := "s::t.it's :x \x22.*"
    let params : Params := ⟨[(":id", .int 7)]⟩
    (mysql, '\x60') ∈ [(mysql, '\x60'), (postgres, '\x22')] ∧ '\x60' ∉ name.toList ∧
      '(' ∉ name.toList ∧ ¬['[', '['] <:+: name.toList ∧ ¬['\x7b', '\x7b'] <:+: name.toList ∧
      mysql.quoteColumn name = "\x60s::t\x60.\x60it's :x \x22\x60.*" ∧
      params.toPositional (mysql.quoteColumn name ++ "=:id") .question =
        .ok ⟨mysql.quoteColumn name ++ "=?", [.int 7]⟩ := by
  intro name params
  have hmem : (mysql, '\x60') ∈ [(mysql, '\x60'), (postgres, '\x22')] := List.mem_cons_self
  have hquote : '\x60' ∉ name.toList := by decide
  have hexpression : '(' ∉ name.toList := by decide
  have hbrackets : ¬['[', '['] <:+: name.toList := by decide
  have hbraces : ¬['\x7b', '\x7b'] <:+: name.toList := by decide
  refine ⟨hmem, hquote, hexpression, hbrackets, hbraces, by decide +kernel, ?_⟩
  rw [(quoted_inert hmem hquote hexpression hbrackets hbraces params .question "=:id").1]
  rfl

end Dialect

end SqlCompose

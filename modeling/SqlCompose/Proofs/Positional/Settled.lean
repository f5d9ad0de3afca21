import Mathlib.Data.List.TakeWhile
import SqlCompose.Proofs.Positional.Numbering
import SqlCompose.Proofs.Positional.Plain
/-!
# Translating a statement again

The scan for placeholders may go over its own output. It finds nothing there: a marker has neither
a quote character nor a colon, so it is read as single characters (`lex_clean_append`), and every
other token is read as it was. Quotes close where they closed (`lex_quoted_append`), and a colon
that was copied alone has behind it the character that it had behind it, which is no marker
(`head?_fill_template`). Hence no placeholder is left in a translated statement
(`placeholders_lex_fill`), and translating it again with any parameters in any style changes
nothing (`Params.toPositional_again`).
-/

namespace SqlCompose

namespace Positional

/-! ### Reading token by token -/

/-- A character that no quotes, cast or placeholder start with is a token of its own. -/
theorem lex_other {c : Char} {cs : List Char} (hquote : isQuote c = false)
    (hcast : ¬(c = ':' ∧ cs.head? = some ':')) (hname : ¬(c = ':' ∧ cs.head?.any isNameStart)) :
    lex (c :: cs) = .other c :: lex cs := by
  rw [lex, if_neg (Bool.eq_false_iff.mp hquote), if_neg hcast, if_neg hname]

/-- Clean text is read character by character. -/
theorem lex_clean_append {cs : List Char} (h : ∀ c ∈ cs, isPlain c = true) (ds : List Char) :
    lex (cs ++ ds) = cs.map .other ++ lex ds := by
  induction cs with
  | nil => rfl
  | cons c cs ih =>
    have hc := h c List.mem_cons_self
    rw [isPlain, Bool.and_eq_true, Bool.not_eq_true', bne_iff_ne] at hc
    rw [List.cons_append, lex_other hc.1 (fun hcolon => hc.2 hcolon.1) fun hcolon => hc.2 hcolon.1,
      ih fun c' hc' => h c' (List.mem_cons_of_mem c hc')]
    rfl

/-- **Quoted runs** end where they ended, if what stands behind them is exchanged; a run that is
never closed has nothing behind it. -/
theorem lex_quoted_append {q : Char} (hq : isQuote q = true) (cs : List Char) {ds : List Char}
    (hend : cs.dropWhile (· != q) = [] → ds = []) :
    lex (q :: (cs.takeWhile (· != q) ++ (cs.dropWhile (· != q)).take 1 ++ ds)) =
      .quoted (q :: (cs.takeWhile (· != q) ++ (cs.dropWhile (· != q)).take 1)) :: lex ds := by
  have hinside : ∀ c ∈ cs.takeWhile (· != q), (c != q) = true := fun c hc =>
    List.mem_takeWhile_imp (p := (· != q)) hc
  -- the next quote character behind the run, if there is one
  have hstop : ((cs.dropWhile (· != q)).take 1 ++ ds).takeWhile (· != q) = [] ∧
      ((cs.dropWhile (· != q)).take 1 ++ ds).dropWhile (· != q) =
        (cs.dropWhile (· != q)).take 1 ++ ds := by
    cases hdrop : cs.dropWhile (· != q) with
    | nil =>
      rw [hend hdrop]
      exact ⟨rfl, rfl⟩
    | cons c rest =>
      have hc : (c != q) = false := by
        have := List.head?_dropWhile_not (· != q) cs
        rwa [hdrop] at this
      simp [hc]
  have hlength : ((cs.dropWhile (· != q)).take 1 ++ ds).drop 1 = ds ∧
      ((cs.dropWhile (· != q)).take 1 ++ ds).take 1 = (cs.dropWhile (· != q)).take 1 := by
    cases hdrop : cs.dropWhile (· != q) with
    | nil =>
      rw [hend hdrop]
      exact ⟨rfl, rfl⟩
    | cons c rest => exact ⟨rfl, rfl⟩
  rw [lex, if_pos hq, List.append_assoc, List.takeWhile_append_of_pos hinside,
    List.dropWhile_append_of_pos hinside, hstop.1, hstop.2, hlength.1, hlength.2, List.append_nil]

/-- What is written for a statement that starts with no colon starts with the same character. -/
theorem head?_fill_template {cs : List Char} (h : cs.head? ≠ some ':') (markers : List String) :
    ((template (lex cs)).fill markers).toList.head? = cs.head? := by
  cases cs with
  | nil =>
    rw [lex]
    rfl
  | cons c cs =>
    have hc : c ≠ ':' := fun hcolon => h (congrArg some hcolon)
    -- the first token is quoted or a single character
    by_cases hquote : isQuote c = true
    · rw [lex, if_pos hquote]
      change (String.ofList (c :: _) ++ Template.fill _ _).toList.head? = _
      rw [String.toList_append, String.toList_ofList]
      rfl
    · rw [lex_other (Bool.eq_false_iff.mpr hquote) (fun hcolon => hc hcolon.1)
        fun hcolon => hc hcolon.1]
      change (String.ofList [c] ++ Template.fill _ _).toList.head? = _
      rw [String.toList_append, String.toList_ofList]
      rfl

/-! ### Markers in place of placeholders -/

/-- **No placeholder is left** in a statement that has clean texts in their places. -/
theorem placeholders_lex_fill (cs : List Char) {markers : List String}
    (hmarkers : ∀ m ∈ markers, Clean m) :
    placeholders (lex ((template (lex cs)).fill markers).toList) = [] := by
  induction cs using lex.induct generalizing markers with
  | case1 =>
    have hnil : lex [] = [] := by rw [lex]
    rw [hnil]
    exact congrArg placeholders hnil
  | case2 c cs hquote ih =>
    rw [lex, if_pos hquote]
    change placeholders (lex (String.ofList _ ++ (template (lex _)).fill markers).toList) = []
    rw [String.toList_append, String.toList_ofList, List.cons_append, lex_quoted_append hquote cs]
    · exact ih hmarkers
    · intro hend
      rw [hend, List.drop_nil, lex]
      rfl
  | case3 c cs hquote hcast ih =>
    obtain ⟨rfl, hhead⟩ := hcast
    have htext : "::".toList = [':', ':'] := rfl
    rw [lex, if_neg hquote, if_pos ⟨rfl, hhead⟩]
    change placeholders (lex ("::" ++ (template (lex (cs.drop 1))).fill markers).toList) = []
    rw [String.toList_append, htext, List.cons_append, lex, if_neg hquote, if_pos ⟨rfl, rfl⟩]
    exact ih hmarkers
  | case4 c cs hquote hcast hname ih =>
    rw [lex, if_neg hquote, if_neg hcast, if_pos hname]
    cases markers with
    | nil => exact ih hmarkers
    | cons m markers =>
      have hm : Clean m := hmarkers m List.mem_cons_self
      have hothers : placeholders (m.toList.map Lexeme.other) = [] := by
        rw [placeholders, List.filterMap_map]
        exact List.filterMap_eq_nil_iff.mpr fun _ _ => rfl
      change placeholders (lex (m ++ (template (lex _)).fill markers).toList) = []
      rw [String.toList_append, lex_clean_append hm, placeholders, List.filterMap_append]
      exact List.append_eq_nil_iff.mpr
        ⟨hothers, ih fun m' hm' => hmarkers m' (List.mem_cons_of_mem m hm')⟩
  | case5 c cs hquote hcast hname ih =>
    rw [lex_other (Bool.eq_false_iff.mpr hquote) hcast hname]
    change placeholders (lex (String.ofList [c] ++ (template (lex cs)).fill markers).toList) = []
    have hhead : c = ':' → ((template (lex cs)).fill markers).toList.head? = cs.head? :=
      fun hcolon => head?_fill_template (fun hnext => hcast ⟨hcolon, hnext⟩) markers
    -- behind a colon nothing has changed that could belong to it
    rw [String.toList_append, String.toList_ofList, List.singleton_append,
      lex_other (Bool.eq_false_iff.mpr hquote)]
    · exact ih hmarkers
    · rintro ⟨hcolon, hnext⟩
      exact hcast ⟨hcolon, (hhead hcolon).symm.trans hnext⟩
    · rintro ⟨hcolon, hstart⟩
      rw [hhead hcolon] at hstart
      exact hname ⟨hcolon, hstart⟩

/-- Markers are clean. -/
theorem clean_marker (style : PlaceholderStyle) (i : Nat) : Clean (marker style i) := by
  cases style with
  | question =>
    have hquestion : Clean "?" := by decide
    exact hquestion
  | dollar =>
    have hdollar : Clean "$" := by decide
    intro c hc
    rw [marker, String.toList_append, List.mem_append] at hc
    exact hc.elim (hdollar c) (Dialect.clean_toString (i + 1) c)

end Positional

namespace Params

open Positional

/-- A statement without placeholders is its own translation, and needs no values. -/
theorem toPositional_of_no_placeholders {sql : String} (h : placeholders (lex sql.toList) = [])
    (params : Params) (style : PlaceholderStyle) :
    params.toPositional sql style = .ok ⟨sql, []⟩ := by
  have htext := fill_template_lex sql.toList
  have hnone : ∀ name ∈ placeholders (lex sql.toList), params.get? name ≠ none := by
    rw [h]
    exact fun name hname => absurd hname List.not_mem_nil
  have hgiven : given style [] [] = [] := by cases style <;> rfl
  rw [h, String.ofList_toList] at htext
  rw [toPositional_eq_ok hnone, h, List.map_nil, htext, hgiven, List.filterMap_nil]

/-- **Translating a statement again** changes nothing. A translated statement has no placeholder
left, so with any parameters, none at all included, and in any style it is its own translation
and takes no values. -/
theorem toPositional_again {params : Params} {sql : String} {style : PlaceholderStyle}
    {r : Positional} (h : params.toPositional sql style = .ok r) :
    placeholders (lex r.sql.toList) = [] ∧
      ∀ (params' : Params) (style' : PlaceholderStyle),
        params'.toPositional r.sql style' = .ok ⟨r.sql, []⟩ := by
  have hnone : placeholders (lex r.sql.toList) = [] := by
    rcases (toPositional_tokens params sql style).2 with ⟨_, _, _, -, -, -, herror⟩ | ⟨-, hok⟩
    · rw [h] at herror
      cases herror
    · rw [h] at hok
      cases hok
      refine placeholders_lex_fill _ fun m hm => ?_
      obtain ⟨name, -, rfl⟩ := List.mem_map.mp hm
      exact clean_marker style _
  exact ⟨hnone, toPositional_of_no_placeholders hnone⟩

/-- Placeholders behind a cast and next to another one, a colon in front of quotes, and a quote
that is never closed. -/
theorem toPositional_again_colons :
    (Params.mk [(":a", .bool true), (":b", .null)]).toPositional
        ":::a:b::c : :\x27:d\x27 :a\x27:b" .dollar =
      .ok ⟨"::$1$2::c : :\x27:d\x27 $1\x27:b", [.bool true, .null]⟩ ∧
      Params.empty.toPositional "::$1$2::c : :\x27:d\x27 $1\x27:b" .question =
        .ok ⟨"::$1$2::c : :\x27:d\x27 $1\x27:b", []⟩ := by
  have h : (Params.mk [(":a", .bool true), (":b", .null)]).toPositional
      ":::a:b::c : :\x27:d\x27 :a\x27:b" .dollar =
        .ok ⟨"::$1$2::c : :\x27:d\x27 $1\x27:b", [.bool true, .null]⟩ := by
    rfl
  exact ⟨h, (toPositional_again h).2 .empty .question⟩

end Params

end SqlCompose

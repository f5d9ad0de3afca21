import SqlCompose.Proofs.Mentions
import SqlCompose.Proofs.Positional.Lexeme
import SqlCompose.Proofs.Positional.Readable
/-!
# Which markers and values a translation writes

A translation gives every placeholder of a statement a marker and copies the other tokens.
With numbered markers the number is the place of the name among the distinct names, in the
order of their first occurrence, and each of these has one value; with question marks every
placeholder has its own value. `Params.toPositional_tokens` says this of every text, together
with the only way to fail: a placeholder without a value, of which the leftmost is the error.

`Params.styles_agree` compares the two styles: where the one has a number, the value that the
number refers to is the value that the other has in this place.
-/

namespace SqlCompose

namespace Positional

/-! ### One token after the other -/

/-- The marker of a placeholder in a statement with these placeholders. -/
def markerAmong (style : PlaceholderStyle) (names : List String) (name : String) : String :=
  marker style (names.eraseDups.idxOf name)

/-- The placeholders whose values are given when some have been seen: those that are new, each
once, or all of them if no marker is used again. -/
def given (style : PlaceholderStyle) (seen names : List String) : List String :=
  match style with
  | .question => names
  | .dollar => (names.removeAll seen).eraseDups

theorem given_cons (style : PlaceholderStyle) (seen names : List String) (name : String) :
    given style seen (name :: names) =
      given style seen [name] ++ given style (seen ++ [name]) names := by
  cases style with
  | question => rfl
  | dollar =>
    -- behind the names that have been seen, both sides list the others
    refine (List.append_right_inj seen.eraseDups).mp ?_
    calc seen.eraseDups ++ given .dollar seen (name :: names)
        = ((seen ++ [name]) ++ names).eraseDups := by
          rw [given, ← List.eraseDups_append, List.append_assoc, List.singleton_append]
      _ = seen.eraseDups ++ (given .dollar seen [name] ++ given .dollar (seen ++ [name]) names) := by
          rw [given, given, List.eraseDups_append, List.eraseDups_append, List.append_assoc]

/-- A marker does not depend on the placeholders behind it. -/
theorem markerAmong_append (style : PlaceholderStyle) {names : List String} {name : String}
    (h : name ∈ names) (more : List String) :
    markerAmong style (names ++ more) name = markerAmong style names name := by
  rw [markerAmong, markerAmong, List.eraseDups_append,
    List.idxOf_append_of_mem (List.mem_eraseDups.mpr h)]

variable {params : Params} {style : PlaceholderStyle}

/-- **The next placeholder** gets its marker, and its value is given if it is not there
already. -/
theorem mark_eq (seen : List String) {name : String} {v : Value} (hvalue : params.get? name = some v) :
    mark params style (numberedBehind style seen.eraseDups) name =
      .ok (⟨(markerAmong style (seen ++ [name]) name).toList,
          (given style seen [name]).filterMap params.get?⟩,
        numberedBehind style (seen ++ [name]).eraseDups) := by
  have hnames : (seen ++ [name]).eraseDups = seen.eraseDups ++ given .dollar seen [name] :=
    List.eraseDups_append
  cases style with
  | question => simp [mark, hvalue, numberedBehind, markerAmong, marker, given]
  | dollar =>
    by_cases hmem : name ∈ seen
    · -- the name has a number
      have hgiven : given .dollar seen [name] = [] := by simp [given, List.removeAll, hmem]
      have hlt : seen.eraseDups.idxOf name < seen.eraseDups.length :=
        List.idxOf_lt_length_of_mem (List.mem_eraseDups.mpr hmem)
      rw [hgiven, List.append_nil] at hnames
      rw [hgiven, markerAmong, hnames]
      simp [mark, hvalue, numberedBehind, hlt, marker]
    · -- the name gets the next number
      have hgiven : given .dollar seen [name] = [name] := by
        simp [given, List.removeAll, hmem, List.eraseDups_cons]
      have hnew : name ∉ seen.eraseDups := mt List.mem_eraseDups.mp hmem
      rw [hgiven] at hnames
      rw [hgiven, markerAmong, hnames, mark_of_notMem hvalue hnew,
        List.idxOf_append_of_notMem hnew]
      simp [hvalue]

/-- A placeholder with a value has a marker, whatever names have numbers. -/
theorem mark_succeeds (style : PlaceholderStyle) {name : String}
    (h : params.get? name ≠ none) (numbered : List String) :
    ∃ m, mark params style numbered name = .ok m := by
  obtain ⟨v, hvalue⟩ := Option.ne_none_iff_exists'.mp h
  rw [mark, hvalue]
  cases style with
  | question => exact ⟨_, rfl⟩
  | dollar =>
    by_cases hi : numbered.idxOf name < numbered.length
    · exact ⟨_, if_pos hi⟩
    · exact ⟨_, if_neg hi⟩

/-- **Tokens with values** become the template with markers. -/
theorem translate_eq_ok {ls : List Lexeme} (h : ∀ name ∈ placeholders ls, params.get? name ≠ none)
    (seen : List String) :
    translate params style (numberedBehind style seen.eraseDups) ls =
      .ok ⟨((template ls).fill
          ((placeholders ls).map (markerAmong style (seen ++ placeholders ls)))).toList,
        (given style seen (placeholders ls)).filterMap params.get?⟩ := by
  induction ls generalizing seen with
  | nil => cases style <;> rfl
  | cons l ls ih =>
    cases hl : l.piece with
    | some text =>
      rw [placeholders_of_piece hl] at h ⊢
      rw [translate_of_piece _ hl, ih h seen, template_of_piece hl, Template.fill,
        String.toList_append]
      rfl
    | none =>
      obtain ⟨name, rfl⟩ := Lexeme.eq_placeholder_of_piece hl
      change ∀ n ∈ name :: placeholders ls, params.get? n ≠ none at h
      obtain ⟨v, hvalue⟩ := Option.ne_none_iff_exists'.mp (h name List.mem_cons_self)
      have hrest := ih (fun n hn => h n (List.mem_cons_of_mem _ hn)) (seen ++ [name])
      -- behind the first name, the names that have been seen are one more
      have hnames : seen ++ name :: placeholders ls = seen ++ [name] ++ placeholders ls := by simp
      have hmarker : markerAmong style (seen ++ [name] ++ placeholders ls) name =
          markerAmong style (seen ++ [name]) name :=
        markerAmong_append style (by simp) _
      rw [translate, mark_eq seen hvalue]
      change (translate params style (numberedBehind style (seen ++ [name]).eraseDups) ls).map
          (Output.before ⟨_, _⟩) =
        .ok ⟨(markerAmong style (seen ++ name :: placeholders ls) name ++ (template ls).fill
            ((placeholders ls).map (markerAmong style (seen ++ name :: placeholders ls)))).toList,
          (given style seen (name :: placeholders ls)).filterMap params.get?⟩
      rw [hrest, hnames, hmarker, given_cons style seen (placeholders ls), List.filterMap_append,
        String.toList_append]
      rfl

/-- **Tokens without a value** make the translation fail at the leftmost one. -/
theorem translate_eq_error {ls : List Lexeme} {before behind : List String} {name : String}
    (hsplit : placeholders ls = before ++ name :: behind)
    (hbefore : ∀ n ∈ before, params.get? n ≠ none) (hname : params.get? name = none)
    (numbered : List String) :
    translate params style numbered ls = .error (.missingParam name) := by
  induction ls generalizing before numbered with
  | nil => simp [placeholders] at hsplit
  | cons l ls ih =>
    cases hl : l.piece with
    | some text =>
      rw [placeholders_of_piece hl] at hsplit
      rw [translate_of_piece _ hl, ih hsplit hbefore]
      rfl
    | none =>
      obtain ⟨n, rfl⟩ := Lexeme.eq_placeholder_of_piece hl
      change n :: placeholders ls = before ++ name :: behind at hsplit
      cases before with
      | nil =>
        obtain ⟨rfl, -⟩ := List.cons_eq_cons.mp hsplit
        rw [translate, mark, hname]
        rfl
      | cons b before =>
        obtain ⟨rfl, hrest⟩ := List.cons_eq_cons.mp hsplit
        -- the first name has a marker, so the error comes from behind
        obtain ⟨m, hm⟩ := mark_succeeds style (hbefore n List.mem_cons_self) numbered
        rw [translate, hm]
        change (translate params style m.2 ls).map m.1.before = _
        rw [ih hrest fun n hn => hbefore n (List.mem_cons_of_mem _ hn)]
        rfl

end Positional

/-! ### Whole statements -/

namespace Params

open Positional

variable {params : Params} {sql : String}

/-- The form of a statement whose placeholders have values. -/
theorem toPositional_eq_ok
    (h : ∀ name ∈ placeholders (lex sql.toList), params.get? name ≠ none)
    (style : PlaceholderStyle) :
    params.toPositional sql style =
      .ok ⟨(template (lex sql.toList)).fill ((placeholders (lex sql.toList)).map
          (markerAmong style (placeholders (lex sql.toList)))),
        (given style [] (placeholders (lex sql.toList))).filterMap params.get?⟩ := by
  have hstart : numberedBehind style ([] : List String).eraseDups = [] := by cases style <;> rfl
  have htokens := @translate_eq_ok params style _ h []
  rw [hstart, List.nil_append] at htokens
  rw [toPositional, scan_eq_translate, htokens, Except.map, String.ofList_toList]

/-- The error of a statement with a placeholder that has none. -/
theorem toPositional_eq_error {before behind : List String} {name : String}
    (hsplit : placeholders (lex sql.toList) = before ++ name :: behind)
    (hbefore : ∀ n ∈ before, params.get? n ≠ none) (hname : params.get? name = none)
    (style : PlaceholderStyle) :
    params.toPositional sql style = .error (.missingParam name) := by
  rw [toPositional, scan_eq_translate, translate_eq_error hsplit hbefore hname]
  rfl

/-- Some names all have values, or there is a leftmost one that has none. -/
theorem leftmost_missing (params : Params) (names : List String) :
    (∃ before name behind, names = before ++ name :: behind ∧
      (∀ n ∈ before, params.get? n ≠ none) ∧ params.get? name = none) ∨
    ∀ name ∈ names, params.get? name ≠ none := by
  cases hfind : names.find? fun n => (params.get? n).isNone with
  | some name =>
    obtain ⟨hname, before, behind, hsplit, hbefore⟩ := List.find?_eq_some_iff_append.mp hfind
    refine .inl ⟨before, name, behind, hsplit, fun n hn => ?_, Option.isNone_iff_eq_none.mp hname⟩
    simpa [Option.isSome_iff_ne_none] using hbefore n hn
  | none =>
    refine .inr fun n hn => ?_
    simpa using List.find?_eq_none.mp hfind n hn

/-- **Exactly the placeholders are rewritten.** A statement is made of its tokens. If one of
its placeholders has no value, the translation fails, and the error names the leftmost such
placeholder. Otherwise every placeholder is replaced by its marker and everything else is
kept. -/
theorem toPositional_tokens (params : Params) (sql : String) (style : PlaceholderStyle) :
    sql = (template (lex sql.toList)).fill (placeholders (lex sql.toList)) ∧
    ((∃ before name behind, placeholders (lex sql.toList) = before ++ name :: behind ∧
        (∀ n ∈ before, params.get? n ≠ none) ∧ params.get? name = none ∧
        params.toPositional sql style = .error (.missingParam name)) ∨
      ((∀ name ∈ placeholders (lex sql.toList), params.get? name ≠ none) ∧
        params.toPositional sql style =
          .ok ⟨(template (lex sql.toList)).fill ((placeholders (lex sql.toList)).map
              (markerAmong style (placeholders (lex sql.toList)))),
            (given style [] (placeholders (lex sql.toList))).filterMap params.get?⟩)) := by
  refine ⟨by rw [fill_template_lex, String.ofList_toList], ?_⟩
  rcases leftmost_missing params (placeholders (lex sql.toList)) with
    ⟨before, name, behind, hsplit, hbefore, hname⟩ | hvalues
  · exact .inl ⟨before, name, behind, hsplit, hbefore, hname,
      toPositional_eq_error hsplit hbefore hname style⟩
  · exact .inr ⟨hvalues, toPositional_eq_ok hvalues style⟩

/-- A name that comes again keeps its number, and a cast and a quoted colon stay. -/
example : (Params.mk [(":a", .bool true), (":b", .null)]).toPositional
    "\x27:b\x27 :a :b::x :a" .dollar = .ok ⟨"\x27:b\x27 $1 $2::x $1", [.bool true, .null]⟩ := by
  rfl

end Params

/-! ### Both styles -/

namespace Positional

/-- **Agreement of two forms** of a statement, the one with numbers and the other with question
marks: both are the same text with markers, and wherever the one has a number, the value with
this number is the value that the other has in this place. -/
structure Agree (T : Template) (names : List String) (numbers : List Nat)
    (dollar question : Positional) : Prop where
  holes : T.holes = names.length
  numbers_length : numbers.length = names.length
  dollar_sql : dollar.sql = T.fill (numbers.map fun i => "$" ++ toString i)
  question_sql : question.sql = T.fill (names.map fun _ => "?")
  /-- A question mark has a value of its own. -/
  question_length : question.values.length = names.length
  /-- A number refers to a value, and this value stands in the same place of the other form. -/
  value : ∀ k i : Nat, numbers[k]? = some i →
    1 ≤ i ∧ i ≤ dollar.values.length ∧ dollar.values[i - 1]? = question.values[k]?
  /-- A number comes again exactly where its name does. -/
  shared : ∀ j < names.length, ∀ k < names.length,
    (numbers[j]? = numbers[k]? ↔ names[j]? = names[k]?)
  /-- New numbers count up from 1, to the number of the values. -/
  first : numbers.eraseDups = List.range' 1 dollar.values.length
  /-- Every name has one value, however often it stands in the statement. -/
  dollar_length : dollar.values.length = names.eraseDups.length

/-- The number of a placeholder: its place among the distinct names. -/
def numberAmong (names : List String) (name : String) : Nat := names.eraseDups.idxOf name + 1

theorem numberAmong_inj {names : List String} {a b : String} (ha : a ∈ names) :
    numberAmong names a = numberAmong names b ↔ a = b := by
  rw [numberAmong, numberAmong, Nat.add_right_cancel_iff,
    List.idxOf_inj (List.mem_eraseDups.mpr ha)]

/-- The numbers of the distinct names count them. -/
theorem eraseDups_numberAmong (names : List String) :
    (names.map (numberAmong names)).eraseDups = List.range' 1 names.eraseDups.length := by
  rw [eraseDups_map fun a ha b _ h => (numberAmong_inj ha).mp h]
  refine List.ext_getElem (by simp) fun i hi _ => ?_
  have hlt : i < names.eraseDups.length := by simpa using hi
  have hidx := (nodup_eraseDups names).idxOf_getElem i hlt
  rw [List.getElem_map, List.getElem_range', numberAmong, hidx]
  omega

/-- Two forms agree if the one gives every distinct name its value, and the other every
placeholder. -/
theorem agree_of_values (T : Template) {names : List String} (hT : T.holes = names.length)
    (value : String → Value) :
    Agree T names (names.map (numberAmong names))
      ⟨T.fill (names.map (markerAmong .dollar names)), names.eraseDups.map value⟩
      ⟨T.fill (names.map (markerAmong .question names)), names.map value⟩ where
  holes := hT
  numbers_length := by simp
  dollar_sql := by
    rw [List.map_map]
    rfl
  question_sql := rfl
  question_length := by simp
  value k i hi := by
    obtain ⟨name, hname, rfl⟩ := Option.map_eq_some_iff.mp ((List.getElem?_map ..).symm.trans hi)
    have hmem : name ∈ names.eraseDups := List.mem_eraseDups.mpr (List.mem_of_getElem? hname)
    have hlt : names.eraseDups.idxOf name < names.eraseDups.length :=
      List.idxOf_lt_length_of_mem hmem
    -- its number is its place among the distinct names, counted from one
    refine ⟨Nat.le_add_left .., ?_, ?_⟩
    · rw [List.length_map]
      exact hlt
    · rw [numberAmong, Nat.add_sub_cancel, List.getElem?_map, List.getElem?_idxOf hmem,
        List.getElem?_map, hname]
  shared j hj k hk := by
    simp only [List.getElem?_map, List.getElem?_eq_getElem hj, List.getElem?_eq_getElem hk,
      Option.map_some, Option.some.injEq]
    exact numberAmong_inj (List.getElem_mem hj)
  first := by rw [List.length_map, eraseDups_numberAmong]
  dollar_length := by simp

end Positional

open Positional in
/-- **The two styles agree.** With the same parameters a statement has a form in both styles or
in none of them, and then the errors are equal; the two forms agree on the values. -/
theorem Params.styles_agree (params : Params) (sql : String) :
    (∃ e, params.toPositional sql .dollar = .error e ∧
      params.toPositional sql .question = .error e) ∨
    ∃ dollar question numbers, params.toPositional sql .dollar = .ok dollar ∧
      params.toPositional sql .question = .ok question ∧
      Agree (template (lex sql.toList)) (placeholders (lex sql.toList)) numbers
        dollar question := by
  rcases leftmost_missing params (placeholders (lex sql.toList)) with
    ⟨before, name, behind, hsplit, hbefore, hname⟩ | hvalues
  · exact .inl ⟨.missingParam name, toPositional_eq_error hsplit hbefore hname .dollar,
      toPositional_eq_error hsplit hbefore hname .question⟩
  · -- as every name has a value, the values are given one for each
    let value : String → Value := fun name => (params.get? name).getD .null
    have hvalue : ∀ names ⊆ placeholders (lex sql.toList),
        names.filterMap params.get? = names.map value := by
      intro names hsub
      refine List.filterMap_eq_map_iff_forall_eq_some.mpr fun name hname => ?_
      obtain ⟨v, hv⟩ := Option.ne_none_iff_exists'.mp (hvalues name (hsub hname))
      simp [value, hv]
    have hagree := agree_of_values _ (holes_template (lex sql.toList)) value
    have hdollar := toPositional_eq_ok hvalues .dollar
    have hquestion := toPositional_eq_ok hvalues .question
    rw [given, List.removeAll_nil, hvalue _ fun _ => List.mem_eraseDups.mp] at hdollar
    rw [given, hvalue _ (List.Subset.refl _)] at hquestion
    exact .inr ⟨_, _, _, hdollar, hquestion, hagree⟩

end SqlCompose

import SqlCompose.Proofs.Positional.Scan
import SqlCompose.Proofs.Session.Template
/-!
# The tokens of a statement

Statements are scanned character by character. `lex` says at once what the scan sees: from
the left, a statement falls into quoted runs, double colons, placeholders and single other
characters. Nothing is lost on the way (`fill_template_lex`), and the scan does what
`translate` does token by token: it gives each placeholder its marker and copies everything
else (`scan_eq_translate`).
-/

namespace SqlCompose.Positional

/-- A token of a statement. -/
inductive Lexeme
  /-- A quote character and what follows, up to and including the next equal one, or up to
  the end. -/
  | quoted (run : List Char)
  /-- Two colons. -/
  | cast
  /-- A colon with the name behind it. -/
  | placeholder (name : String)
  /-- Any other character. -/
  | other (c : Char)
deriving DecidableEq

/-- The text of a token that is copied, or a hole for a placeholder. -/
def Lexeme.piece : Lexeme → Option String
  | quoted run => some (String.ofList run)
  | cast => some "::"
  | placeholder _ => none
  | other c => some (String.ofList [c])

/-- The name of a placeholder. -/
def Lexeme.name? : Lexeme → Option String
  | placeholder name => some name
  | _ => none

/-- The tokens of a statement, from the left. -/
def lex : List Char → List Lexeme
  | [] => []
  | c :: cs =>
    if isQuote c then
      .quoted (c :: (cs.takeWhile (· != c) ++ (cs.dropWhile (· != c)).take 1)) ::
        lex ((cs.dropWhile (· != c)).drop 1)
    else if c = ':' ∧ cs.head? = some ':' then .cast :: lex (cs.drop 1)
    else if c = ':' ∧ cs.head?.any isNameStart then
      .placeholder (String.ofList (c :: cs.takeWhile isNamePart)) ::
        lex (cs.dropWhile isNamePart)
    else .other c :: lex cs
termination_by cs => cs.length
decreasing_by
  · have := (cs.dropWhile_sublist (· != c)).length_le
    simp only [List.length_drop, List.length_cons]
    omega
  · simp only [List.length_drop, List.length_cons]
    omega
  · have := (cs.dropWhile_sublist isNamePart).length_le
    simp only [List.length_cons]
    omega
  · simp

/-- The names of the placeholders with their colons, from the left. -/
def placeholders (ls : List Lexeme) : List String := ls.filterMap Lexeme.name?

/-- The tokens one behind the other, with holes in place of the placeholders. -/
def template (ls : List Lexeme) : Template := ls.map Lexeme.piece

theorem holes_template (ls : List Lexeme) : (template ls).holes = (placeholders ls).length := by
  induction ls with
  | nil => rfl
  | cons l ls ih =>
    cases l <;>
      simpa [template, placeholders, Template.holes, Lexeme.piece, Lexeme.name?,
        List.filterMap_cons] using ih

/-- **A statement is made of its tokens**, one behind the other. -/
theorem fill_template_lex (cs : List Char) :
    (template (lex cs)).fill (placeholders (lex cs)) = String.ofList cs := by
  induction cs using lex.induct with
  | case1 =>
    rw [lex]
    rfl
  | case2 c cs hquote ih =>
    -- a quoted text: `take` has its closing quote, if there is one
    rw [lex, if_pos hquote]
    change String.ofList _ ++ Template.fill (template (lex _)) (placeholders (lex _)) = _
    rw [ih, ← String.ofList_append, List.cons_append, List.append_assoc, List.take_append_drop,
      List.takeWhile_append_dropWhile]
  | case3 c cs hquote hcast ih =>
    -- a cast is a text of two characters
    obtain ⟨rfl, hcast⟩ := hcast
    obtain ⟨cs, rfl⟩ := List.head?_eq_some_iff.mp hcast
    rw [lex, if_neg hquote, if_pos ⟨rfl, rfl⟩]
    change "::" ++ Template.fill (template (lex _)) (placeholders (lex _)) = _
    rw [ih, List.drop_one, List.tail_cons]
    exact (@String.ofList_append [':', ':'] cs).symm
  | case4 c cs hquote hcast hname ih =>
    -- a placeholder fills the hole that it has made
    rw [lex, if_neg hquote, if_neg hcast, if_pos hname]
    change String.ofList _ ++ Template.fill (template (lex _)) (placeholders (lex _)) = _
    rw [ih, ← String.ofList_append, List.cons_append, List.takeWhile_append_dropWhile]
  | case5 c cs hquote hcast hname ih =>
    rw [lex, if_neg hquote, if_neg hcast, if_neg hname]
    change String.ofList _ ++ Template.fill (template (lex _)) (placeholders (lex _)) = _
    rw [ih, ← String.ofList_append, List.singleton_append]

/-! ### Scanning token by token -/

variable (params : Params) (style : PlaceholderStyle) (numbered : List String)

/-- What the tokens of a statement add to the text and the values. -/
def translate (params : Params) (style : PlaceholderStyle) :
    List String → List Lexeme → Except Error Output
  | _, [] => .ok {}
  | numbered, .quoted run :: ls => (translate params style numbered ls).map (Output.before ⟨run, []⟩)
  | numbered, .cast :: ls =>
    (translate params style numbered ls).map (Output.before ⟨[':', ':'], []⟩)
  | numbered, .placeholder name :: ls => do
    let (marker, numbered) ← mark params style numbered name
    (translate params style numbered ls).map marker.before
  | numbered, .other c :: ls => (translate params style numbered ls).map (Output.before ⟨[c], []⟩)

variable {params style}

theorem Lexeme.eq_placeholder_of_piece {l : Lexeme} (h : l.piece = none) :
    ∃ name, l = .placeholder name := by
  cases l with
  | placeholder name => exact ⟨name, rfl⟩
  | _ => cases h

/-- A token with text is copied. -/
theorem translate_of_piece {l : Lexeme} {text : String} (h : l.piece = some text)
    (ls : List Lexeme) :
    translate params style numbered (l :: ls) =
      (translate params style numbered ls).map (Output.before ⟨text.toList, []⟩) := by
  cases l with
  | placeholder name => cases h
  | cast =>
    cases h
    rfl
  | quoted run =>
    cases h
    rw [translate, String.toList_ofList]
  | other c =>
    cases h
    rw [translate, String.toList_ofList]

/-- A token with text is no placeholder. -/
theorem placeholders_of_piece {l : Lexeme} {text : String} (h : l.piece = some text)
    (ls : List Lexeme) : placeholders (l :: ls) = placeholders ls := by
  cases l with
  | placeholder name => cases h
  | _ => rfl

theorem template_of_piece {l : Lexeme} {text : String} (h : l.piece = some text)
    (ls : List Lexeme) : template (l :: ls) = some text :: template ls :=
  congrArg (· :: template ls) h

/-- Within quotes everything is copied up to the character that closes them. -/
theorem scan_quoted (q : Char) (cs : List Char) :
    scan params style ⟨.quoted q, numbered⟩ cs =
      (scan params style ⟨.plain, numbered⟩ ((cs.dropWhile (· != q)).drop 1)).map
        (Output.before ⟨cs.takeWhile (· != q) ++ (cs.dropWhile (· != q)).take 1, []⟩) := by
  induction cs with
  | nil => rfl
  | cons c cs ih =>
    by_cases hc : c = q
    · -- the quotes are closed
      subst hc
      have hstep : step params style ⟨.quoted c, numbered⟩ c = .ok (⟨[c], []⟩, ⟨.plain, numbered⟩) := by
        simp [step]
      rw [scan_of_step hstep]
      simp
    · have hstep : step params style ⟨.quoted q, numbered⟩ c =
          .ok (⟨[c], []⟩, ⟨.quoted q, numbered⟩) := by
        simp [step, hc]
      rw [scan_of_step hstep, ih, Output.map_before_before]
      simp [hc, Output.before]

/-- A colon is copied if what follows does not belong to it. -/
theorem scan_colon {cs : List Char} (hcast : cs.head? ≠ some ':')
    (hname : cs.head?.any isNameStart = false) :
    scan params style ⟨.colon, numbered⟩ cs =
      (scan params style ⟨.plain, numbered⟩ cs).map (Output.before ⟨[':'], []⟩) := by
  cases cs with
  | nil => rfl
  | cons c cs =>
    have hc : c ≠ ':' := by simpa using hcast
    have hstart : isNameStart c = false := by simpa using hname
    have hstep : step params style ⟨.colon, numbered⟩ c =
        .ok (Output.before ⟨[':'], []⟩ (plainStep numbered c).1, (plainStep numbered c).2) := by
      simp [step, hc, hstart, Output.before]
    have hplain : step params style ⟨.plain, numbered⟩ c =
        .ok ((plainStep numbered c).1, (plainStep numbered c).2) := rfl
    rw [scan_of_step hstep, scan_of_step hplain, Output.map_before_before]

/-- **The scan goes over the tokens** of a statement, one after the other. -/
theorem scan_eq_translate (cs : List Char) :
    scan params style ⟨.plain, numbered⟩ cs = translate params style numbered (lex cs) := by
  induction cs using lex.induct generalizing numbered with
  | case1 =>
    rw [lex]
    rfl
  | case2 c cs hquote ih =>
    have hstep : step params style ⟨.plain, numbered⟩ c =
        .ok (⟨[c], []⟩, ⟨.quoted c, numbered⟩) := by
      simp [step, plainStep, hquote]
    rw [lex, if_pos hquote, translate, scan_of_step hstep, scan_quoted, ih,
      Output.map_before_before]
    rfl
  | case3 c cs hquote hcast ih =>
    obtain ⟨rfl, hhead⟩ := hcast
    obtain ⟨cs, rfl⟩ := List.head?_eq_some_iff.mp hhead
    -- the first colon waits, and the second one writes both
    have hfirst : step params style ⟨.plain, numbered⟩ ':' = .ok ({}, ⟨.colon, numbered⟩) := rfl
    have hsecond : step params style ⟨.colon, numbered⟩ ':' =
        .ok (⟨[':', ':'], []⟩, ⟨.plain, numbered⟩) := rfl
    rw [lex, if_neg hquote, if_pos ⟨rfl, rfl⟩, translate, scan_of_step hfirst,
      scan_of_step hsecond, Output.map_before_before]
    exact congrArg (Except.map _) (ih numbered)
  | case4 c cs hquote hcast hname ih =>
    obtain ⟨rfl, hstart⟩ := hname
    obtain ⟨c, hhead, hc⟩ := (Option.any_eq_true _ _).mp hstart
    obtain ⟨cs, rfl⟩ := List.head?_eq_some_iff.mp hhead
    -- the first character of the name is one of its parts, too
    have hpart : isNamePart c = true := by
      simp only [isNameStart, Bool.or_eq_true] at hc
      rcases hc with hc | hc
      · simp [isNamePart, Char.isAlphanum, hc]
      · simp [isNamePart, hc]
    have hbehind : ∀ d, (cs.dropWhile isNamePart).head? = some d → isNamePart d = false := by
      intro d hd
      have := List.head?_dropWhile_not isNamePart cs
      rwa [hd] at this
    have hparts : ∀ d ∈ cs.takeWhile isNamePart, isNamePart d = true :=
      List.all_eq_true.mp List.all_takeWhile
    calc scan params style ⟨.plain, numbered⟩ (':' :: c :: cs)
        = mark params style numbered (String.ofList (':' :: c :: cs.takeWhile isNamePart)) >>=
            fun m => (scan params style ⟨.plain, m.2⟩ (cs.dropWhile isNamePart)).map
              m.1.before := by
          rw [← scan_named numbered hc hparts hbehind, List.takeWhile_append_dropWhile]
      _ = translate params style numbered (lex (':' :: c :: cs)) := by
          rw [lex, if_neg hquote, if_neg hcast, if_pos ⟨rfl, hstart⟩, translate,
            List.takeWhile_cons_of_pos hpart]
          refine bind_congr fun m => ?_
          change _ = (translate params style m.2 _).map m.1.before
          rw [← ih, List.dropWhile_cons_of_pos hpart]
  | case5 c cs hquote hcast hname ih =>
    rw [lex, if_neg hquote, if_neg hcast, if_neg hname, translate, ← ih]
    by_cases hc : c = ':'
    · -- a colon alone waits, and is then copied after all
      subst hc
      have hstep : step params style ⟨.plain, numbered⟩ ':' = .ok ({}, ⟨.colon, numbered⟩) := rfl
      rw [scan_of_step hstep, scan_colon numbered (by simpa using hcast) (by simpa using hname),
        Output.map_before_before]
      rfl
    · have hstep : step params style ⟨.plain, numbered⟩ c =
          .ok (⟨[c], []⟩, ⟨.plain, numbered⟩) := by
        simp [step, plainStep, hquote, hc]
      rw [scan_of_step hstep]

end SqlCompose.Positional

import SqlCompose.Params.Allocator
import SqlCompose.Params.Positional
/-!
# What a scan does to text and to placeholders

The scan for positional markers goes over a statement character by character. Here its
work is put together again for longer stretches. Text without colons in which all
quotes are closed (`Neutral`) is copied, and the scan stands behind it as it stood in
front of it (`scan_neutral`). A placeholder becomes its marker as soon as something
follows that cannot belong to its name (`scan_placeholder`).
-/

namespace SqlCompose.Positional

variable (params : Params) (style : PlaceholderStyle) (numbered : List String)

/-! ### Text -/

/-- A character that neither opens quotes nor starts a placeholder. -/
def isPlain (c : Char) : Bool := !isQuote c && c != ':'

/-- Text without quote characters and colons. -/
def Clean (s : String) : Prop := ∀ c ∈ s.toList, isPlain c = true

/-- The quotes that are open behind some characters, if `open?` are open in front. -/
def quotesBehind (open? : Option Char) : List Char → Option Char
  | [] => open?
  | c :: cs =>
    match open? with
    | none => quotesBehind (if isQuote c then some c else none) cs
    | some q => quotesBehind (if c = q then none else some q) cs

/-- **Neutral text** has no colons, and all its quotes are closed. -/
structure Neutral (s : String) : Prop where
  noColon : ':' ∉ s.toList
  closed : quotesBehind none s.toList = none

instance (s : String) : Decidable (Clean s) :=
  decidable_of_iff (s.toList.all isPlain = true) List.all_eq_true

theorem quotesBehind_append (open? : Option Char) (cs ds : List Char) :
    quotesBehind open? (cs ++ ds) = quotesBehind (quotesBehind open? cs) ds := by
  induction cs generalizing open? with
  | nil => rfl
  | cons c cs ih =>
    cases open? with
    | none => exact ih _
    | some q => exact ih _

theorem quotesBehind_of_plain {cs : List Char} (h : ∀ c ∈ cs, isPlain c = true) :
    quotesBehind none cs = none := by
  induction cs with
  | nil => rfl
  | cons c cs ih =>
    -- a plain character opens no quotes, so the rest is read as before
    have hc : isQuote c = false := by
      have := h c List.mem_cons_self
      simp only [isPlain, Bool.and_eq_true, Bool.not_eq_true'] at this
      exact this.1
    rw [quotesBehind, hc]
    exact ih fun c' hc' => h c' (List.mem_cons_of_mem c hc')

/-- Within quotes plain characters change nothing. -/
theorem quotesBehind_some_of_plain {q : Char} (hq : isQuote q = true) {cs : List Char}
    (h : ∀ c ∈ cs, isPlain c = true) : quotesBehind (some q) cs = some q := by
  induction cs with
  | nil => rfl
  | cons c cs ih =>
    -- nor does it close any
    have hc : c ≠ q := by
      rintro rfl
      have := h c List.mem_cons_self
      simp [isPlain, hq] at this
    rw [quotesBehind, if_neg hc]
    exact ih fun c' hc' => h c' (List.mem_cons_of_mem c hc')

theorem Clean.noColon {s : String} (h : Clean s) : ':' ∉ s.toList := by
  intro hmem
  have := h ':' hmem
  simp [isPlain] at this

theorem Clean.neutral {s : String} (h : Clean s) : Neutral s :=
  ⟨h.noColon, quotesBehind_of_plain h⟩

theorem neutral_empty : Neutral "" := ⟨List.not_mem_nil, rfl⟩

theorem neutral_blank : Neutral " " := Clean.neutral (by decide)

theorem neutral_comma : Neutral ", " := Clean.neutral (by decide)

theorem neutral_point : Neutral "." := Clean.neutral (by decide)

theorem neutral_opening : Neutral "(" := Clean.neutral (by decide)

theorem neutral_blank_opening : Neutral " (" := Clean.neutral (by decide)

theorem neutral_closing : Neutral ")" := Clean.neutral (by decide)

theorem Neutral.append {s t : String} (hs : Neutral s) (ht : Neutral t) : Neutral (s ++ t) := by
  constructor
  · rw [String.toList_append, List.mem_append, not_or]
    exact ⟨hs.noColon, ht.noColon⟩
  · rw [String.toList_append, quotesBehind_append, hs.closed, ht.closed]

/-- Clean text between two quote characters is neutral. -/
theorem neutral_wrapped {q : Char} (hq : isQuote q = true) {s : String} (hs : Clean s) :
    Neutral (String.ofList [q] ++ s ++ String.ofList [q]) := by
  have hlist : (String.ofList [q] ++ s ++ String.ofList [q]).toList = q :: (s.toList ++ [q]) := by
    simp
  -- the first character opens the quote that the last one closes, and nothing between them does
  constructor
  · have hcolon : ':' ≠ q := by
      rintro rfl
      exact absurd hq (by decide)
    rw [hlist, List.mem_cons, List.mem_append, List.mem_singleton]
    rintro (h | h | h)
    · exact hcolon h
    · exact hs.noColon h
    · exact hcolon h
  · rw [hlist, quotesBehind, if_pos hq, quotesBehind_append, quotesBehind_some_of_plain hq hs,
      quotesBehind, if_pos rfl]
    rfl

/-! ### One character after the other -/

/-- One output and another behind it. -/
def Output.before (first second : Output) : Output :=
  ⟨first.text ++ second.text, first.values ++ second.values⟩

theorem Output.before_before (o₁ o₂ o₃ : Output) :
    (o₁.before o₂).before o₃ = o₁.before (o₂.before o₃) := by
  simp only [Output.before, List.append_assoc]

theorem Output.map_before_before (o₁ o₂ : Output) (x : Except Error Output) :
    (x.map o₂.before).map o₁.before = x.map (o₁.before o₂).before := by
  cases x with
  | error e => rfl
  | ok out => exact congrArg Except.ok (Output.before_before o₁ o₂ out).symm

variable {params style}

/-- The scan goes on from where a character has led. -/
theorem scan_of_step {s s' : State} {c : Char} {out : Output}
    (h : step params style s c = .ok (out, s')) (cs : List Char) :
    scan params style s (c :: cs) = (scan params style s' cs).map out.before := by
  rw [scan, h]
  rfl

/-! ### Text is copied -/

/-- What the scan stands in when these quotes are open. -/
def modeOf : Option Char → Mode
  | none => .plain
  | some q => .quoted q

/-- A character other than the colon is copied. -/
theorem step_modeOf (open? : Option Char) {c : Char} (hc : c ≠ ':') :
    step params style ⟨modeOf open?, numbered⟩ c =
      .ok (⟨[c], []⟩, ⟨modeOf (quotesBehind open? [c]), numbered⟩) := by
  -- outside of quotes a character may open one, and inside it may close the one that is open
  cases open? with
  | none =>
    change Except.ok (plainStep numbered c) = _
    unfold plainStep
    cases hquote : isQuote c with
    | true => simp [quotesBehind, hquote, modeOf]
    | false => simp [quotesBehind, hquote, modeOf, hc]
  | some q =>
    change Except.ok (_, if c = q then _ else _) = _
    by_cases hq : c = q
    · simp [quotesBehind, hq, modeOf]
    · simp [quotesBehind, hq, modeOf]

/-- Characters other than the colon are copied. -/
theorem scan_modeOf (open? : Option Char) {cs : List Char} (h : ':' ∉ cs) (ds : List Char) :
    scan params style ⟨modeOf open?, numbered⟩ (cs ++ ds) =
      (scan params style ⟨modeOf (quotesBehind open? cs), numbered⟩ ds).map
        (Output.before ⟨cs, []⟩) := by
  induction cs generalizing open? with
  | nil =>
    rw [List.nil_append, quotesBehind]
    cases scan params style ⟨modeOf open?, numbered⟩ ds <;> rfl
  | cons c cs ih =>
    rw [List.mem_cons, not_or] at h
    -- one copied character, and the copies of the others behind it
    rw [List.cons_append, scan_of_step (step_modeOf numbered open? (Ne.symm h.1)), ih _ h.2,
      ← quotesBehind_append, List.singleton_append, Output.map_before_before]
    rfl

/-- **Neutral text is copied**, and then the scan goes on as if the text had not been
there. -/
theorem scan_neutral {s : String} (h : Neutral s) (ds : List Char) :
    scan params style ⟨.plain, numbered⟩ (s.toList ++ ds) =
      (scan params style ⟨.plain, numbered⟩ ds).map (Output.before ⟨s.toList, []⟩) := by
  calc scan params style ⟨.plain, numbered⟩ (s.toList ++ ds)
      = (scan params style ⟨modeOf (quotesBehind none s.toList), numbered⟩ ds).map
          (Output.before ⟨s.toList, []⟩) := scan_modeOf numbered none h.noColon ds
    _ = (scan params style ⟨.plain, numbered⟩ ds).map (Output.before ⟨s.toList, []⟩) := by
        rw [h.closed]
        rfl

/-! ### Placeholders become markers -/

/-- The characters of a name are read. -/
theorem scan_name (read : List Char) {cs : List Char} (h : ∀ c ∈ cs, isNamePart c = true)
    (ds : List Char) :
    scan params style ⟨.name read, numbered⟩ (cs ++ ds) =
      scan params style ⟨.name (cs.reverse ++ read), numbered⟩ ds := by
  induction cs generalizing read with
  | nil => rfl
  | cons c cs ih =>
    have hstep : step params style ⟨.name read, numbered⟩ c =
        .ok ({}, ⟨.name (c :: read), numbered⟩) := by
      change (if isNamePart c then _ else _) = _
      rw [if_pos (h c List.mem_cons_self)]
    -- the name grows by one character, and nothing is written for it
    rw [List.cons_append, scan_of_step hstep, ih (c :: read) fun c' hc' =>
      h c' (List.mem_cons_of_mem c hc'), List.reverse_cons, List.append_assoc,
      List.singleton_append]
    cases scan params style ⟨.name (cs.reverse ++ c :: read), numbered⟩ ds <;> rfl

/-- A name ends where something follows that cannot belong to it, and then its marker is
written. -/
theorem scan_behind_name (read : List Char) {ds : List Char}
    (h : ∀ c, ds.head? = some c → isNamePart c = false) :
    scan params style ⟨.name read, numbered⟩ ds =
      mark params style numbered (nameOf read) >>= fun m =>
        (scan params style ⟨.plain, m.2⟩ ds).map m.1.before := by
  cases ds with
  | nil =>
    -- at the end of the text the name is marked, and nothing is left to read
    change (mark params style numbered (nameOf read)).map (·.1) = _
    cases mark params style numbered (nameOf read) with
    | error e => rfl
    | ok m =>
      change Except.ok m.1 = Except.ok (m.1.before {})
      simp [Output.before]
  | cons c cs =>
    have hc := h c rfl
    cases hmark : mark params style numbered (nameOf read) with
    | error e =>
      have hstep : step params style ⟨.name read, numbered⟩ c = .error e := by
        change (if isNamePart c then _ else mark params style numbered (nameOf read) >>= _) = _
        rw [hc, hmark]
        rfl
      rw [scan, hstep]
      rfl
    | ok m =>
      -- the character is read as if nothing had been in front of it
      have hstep : step params style ⟨.name read, numbered⟩ c =
          .ok (m.1.before (plainStep m.2 c).1, (plainStep m.2 c).2) := by
        change (if isNamePart c then _ else mark params style numbered (nameOf read) >>= _) = _
        rw [hc, hmark]
        rfl
      have hplain : step params style ⟨.plain, m.2⟩ c =
          .ok ((plainStep m.2 c).1, (plainStep m.2 c).2) := rfl
      calc scan params style ⟨.name read, numbered⟩ (c :: cs)
          = (scan params style (plainStep m.2 c).2 cs).map
              (m.1.before (plainStep m.2 c).1).before := scan_of_step hstep cs
        _ = ((scan params style (plainStep m.2 c).2 cs).map (plainStep m.2 c).1.before).map
              m.1.before := (Output.map_before_before _ _ _).symm
        _ = (scan params style ⟨.plain, m.2⟩ (c :: cs)).map m.1.before :=
            congrArg (Except.map m.1.before) (scan_of_step hplain cs).symm

/-- **A name behind a colon becomes its marker** if what follows cannot belong to it. -/
theorem scan_named {c : Char} (hc : isNameStart c = true) {cs : List Char}
    (hcs : ∀ c ∈ cs, isNamePart c = true) {ds : List Char}
    (h : ∀ c, ds.head? = some c → isNamePart c = false) :
    scan params style ⟨.plain, numbered⟩ (':' :: c :: (cs ++ ds)) =
      mark params style numbered (String.ofList (':' :: c :: cs)) >>= fun m =>
        (scan params style ⟨.plain, m.2⟩ ds).map m.1.before := by
  -- the colon and the character behind it open the name
  have hcolon : step params style ⟨.plain, numbered⟩ ':' = .ok ({}, ⟨.colon, numbered⟩) := rfl
  have hopen : step params style ⟨.colon, numbered⟩ c = .ok ({}, ⟨.name [c], numbered⟩) := by
    have hne : c ≠ ':' := by
      rintro rfl
      exact absurd hc (by decide)
    change (if c = ':' then _ else if isNameStart c then _ else _) = _
    rw [if_neg hne, if_pos hc]
  have hname : nameOf (cs.reverse ++ [c]) = String.ofList (':' :: c :: cs) := by simp [nameOf]
  rw [scan_of_step hcolon, scan_of_step hopen, Output.map_before_before, scan_name numbered [c] hcs,
    scan_behind_name numbered _ h, hname]
  exact congrFun Except.map_id _

/-- The characters of a number are digits. -/
theorem isDigit_of_mem_toString {n : Nat} {c : Char} (h : c ∈ (toString n).toList) :
    c.isDigit = true := by
  rw [Nat.toString_eq_repr, Nat.toList_repr] at h
  exact Nat.isDigit_of_mem_toDigits (by decide) (by decide) h

/-- **A placeholder becomes its marker** if what follows cannot belong to its name. -/
theorem scan_placeholder (n : Nat) {ds : List Char}
    (h : ∀ c, ds.head? = some c → isNamePart c = false) :
    scan params style ⟨.plain, numbered⟩ ((placeholderName n).toList ++ ds) =
      mark params style numbered (placeholderName n) >>= fun m =>
        (scan params style ⟨.plain, m.2⟩ ds).map m.1.before := by
  have hchars : (placeholderName n).toList = ':' :: 'q' :: ('p' :: (toString n).toList) := by
    simp [placeholderName]
  -- the letters and the digits belong to the name
  have hparts : ∀ c ∈ 'p' :: (toString n).toList, isNamePart c = true := by
    intro c hc
    rcases List.mem_cons.mp hc with rfl | hc
    · rfl
    · simp [isNamePart, Char.isAlphanum, isDigit_of_mem_toString hc]
  have hname : String.ofList (':' :: 'q' :: ('p' :: (toString n).toList)) = placeholderName n := by
    rw [← hchars, String.ofList_toList]
  rw [hchars, List.cons_append, List.cons_append, scan_named numbered (by decide) hparts h, hname]

end SqlCompose.Positional

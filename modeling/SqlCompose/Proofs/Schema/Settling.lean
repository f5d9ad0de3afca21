import SqlCompose.Proofs.Schema.Resolution
/-!
# Resolving a type text again

A type text that has been resolved is a physical type, and may be given where a type text is
wanted. It is not changed then if the word at its head is no token, and it is not changed either
if that token stands for this word alone, with arguments where the physical type has some
(`TypeText.Parts.Repeats`): arguments only take the place of the same arguments, and what stands
behind is kept. All physical types of the dialects are of these two kinds
(`Dialect.resolves_again`), except one: `double precision` begins with the token `double`, which
stands for both words (`Dialect.resolveType_doublePrecision_append`).

What is written behind a token is arguments as they are read, or it is left alone
(`Dialect.resolveType_or_read`); so the texts that are resolved again are all of one form, physical
types that were given arguments, and `Dialect.resolveType_settled` is about them.
-/

namespace SqlCompose

namespace TypeText

/-- A type text of a token, arguments in parentheses if there are any, and what follows. -/
def written (token : String) (args : Option String) (rest : String) : String :=
  token ++ String.ofList (Parts.group (args.map String.toList)) ++ rest

namespace Parts

/-- The same type with the arguments that follow a token, if there are any and it takes them. -/
def given (p : Parts) : Option (List Char) → Parts
  | none => p
  | some args => p.withArguments args

variable {p q : Parts} {args : Option (List Char)}

@[simp] theorem given_head : (p.given args).head = p.head := by
  cases args <;> rfl

@[simp] theorem given_tail : (p.given args).tail = p.tail := by
  cases args <;> rfl

theorem given_of_none (h : p.arguments = none) : p.given args = p := by
  cases args with
  | none => rfl
  | some args => exact withArguments_of_none h

theorem exists_given_of_some {inside : List Char} (h : p.arguments = some inside)
    (args : Option (List Char)) :
    ∃ args', (p.given args).arguments = some args' := by
  cases args with
  | none => exact ⟨inside, h⟩
  | some args => exact ⟨args, withArguments_of_some h⟩

theorem arguments_of_given (h : (p.given args).arguments = none) : p.arguments = none := by
  cases hp : p.arguments with
  | none => rfl
  | some inside =>
    obtain ⟨args', hargs⟩ := exists_given_of_some hp args
    exact absurd (h.symm.trans hargs) nofun

/-- The arguments of a type are its own or those it is given. -/
theorem isArguments_given (h : p.Regular) (hargs : ∀ a ∈ args, IsArguments a) :
    ∀ a ∈ (p.given args).arguments, IsArguments a := by
  intro a ha
  cases args with
  | none =>
    have hne : a ≠ [] := fun hnil => h.arguments_ne_nil (hnil ▸ ha)
    exact isArguments_of_notMem hne (h.notMem_arguments a ha)
  | some args =>
    obtain ⟨inside, -, rfl⟩ := Option.map_eq_some_iff.mp ha
    exact hargs args rfl

/-- A type with a parenthesis has arguments. -/
theorem arguments_ne_none (h : p.Regular) (hopen : '(' ∈ p.write) : p.arguments ≠ none := by
  intro hnone
  rw [write_of_none hnone, List.mem_append] at hopen
  exact hopen.elim (notMem_head h) h.notMem_tail.1

/-- **A type that its own head stands for**: `q` is the head of `p` alone, and takes arguments
where `p` has some. -/
structure Repeats (p q : Parts) : Prop where
  head_eq : q.head = p.head
  tail_eq : q.tail = []
  arguments_eq : q.arguments.isSome = p.arguments.isSome

instance (p q : Parts) : Decidable (Repeats p q) :=
  decidable_of_iff
    (q.head = p.head ∧ q.tail = [] ∧ q.arguments.isSome = p.arguments.isSome)
    ⟨fun ⟨h₁, h₂, h₃⟩ => ⟨h₁, h₂, h₃⟩, fun h => ⟨h.head_eq, h.tail_eq, h.arguments_eq⟩⟩

/-- What the head stands for takes the arguments back, and the rest is kept behind it. -/
theorem Repeats.write_given (h : Repeats p q) :
    (q.given (p.given args).arguments).write ++ p.tail = (p.given args).write := by
  -- arguments are taken by both types or by none of them
  cases hp : p.arguments with
  | none =>
    have hq : q.arguments = none := by
      simpa [hp] using h.arguments_eq
    rw [given_of_none hp, given_of_none hq, write_of_none hq, write_of_none hp, h.head_eq,
      h.tail_eq, List.append_nil]
  | some inside =>
    obtain ⟨inside', hq⟩ := Option.isSome_iff_exists.mp
      (h.arguments_eq.trans (Option.isSome_iff_exists.mpr ⟨inside, hp⟩))
    obtain ⟨args', hargs⟩ := exists_given_of_some hp args
    rw [hargs, given, write_of_some (withArguments_of_some hq), write_of_some hargs]
    simp [h.head_eq, h.tail_eq]

end Parts

variable {p : Parts} {rest : List Char} {args : Option (List Char)}

/-- What follows the parts of a physical type is set off by a blank. -/
theorem blank_append (hp : p.Regular) (hblank : ∀ c ∈ rest.head?, Text.isBlank c = true) :
    ∀ c ∈ (p.tail ++ rest).head?, Text.isBlank c = true := by
  intro c hc
  rw [List.head?_append, Option.mem_def, Option.or_eq_some_iff] at hc
  obtain hc | ⟨-, hc⟩ := hc
  · exact hp.blank_tail c hc
  · exact hblank c hc

/-- **What follows a token is resolved, or it is no arguments at all**, on several lines. -/
theorem substitute?_group (hp : p.Regular) (hargs : ∀ a ∈ args, IsArguments a)
    (hblank : args = none → ∀ c ∈ rest.head?, Text.isBlank c = true) :
    substitute? p.write (Parts.group args ++ rest) = some ((p.given args).write ++ rest) ∨
      args ≠ none ∧ substitute? p.write (Parts.group args ++ rest) = none := by
  cases args with
  | none =>
    -- no arguments: nothing is there to be read, or a blank
    refine .inl ?_
    rw [Parts.group, List.nil_append, Parts.given]
    cases rest with
    | nil => rw [substitute?, List.append_nil]
    | cons c rest => exact substitute?_blank (hblank rfl c rfl)
  | some args =>
    have hshape : Parts.group (some args) ++ rest = '(' :: (args ++ ')' :: rest) := by
      simp [Parts.group]
    have hread := arguments?_group (hargs args rfl) rest
    rw [hshape]
    -- a group is read on a single line only
    by_cases hline : '\n' ∈ args ++ ')' :: rest
    · rw [if_pos hline] at hread
      exact .inr ⟨Option.some_ne_none _, substitute?_of_none hread (by decide)⟩
    · rw [if_neg hline] at hread
      rw [substitute?_of_some hread, withArguments_write hp]
      exact .inl rfl

/-- Nothing of a word stands right behind a token with or without arguments. -/
theorem isWord_group (hblank : args = none → ∀ c ∈ rest.head?, Text.isBlank c = true) :
    ∀ c ∈ (Parts.group args ++ rest).head?, Text.isWord c = false := by
  cases args with
  | none => exact fun c hc => Text.isWord_of_isBlank (hblank rfl c hc)
  | some args => exact isWord_opening _

end TypeText

namespace Dialect

open TypeText

variable {d : Dialect} {p : Parts} {rest : List Char} {args : Option (List Char)}

/-! ### Resolving once -/

/-- A token with arguments or without is its physical type, or stays as it is. -/
theorem resolveType_group (d : Dialect) (type : ColumnType) (args : Option (List Char))
    (rest : List Char) (hp : p.Regular) (hwrite : p.write = (d.physicalType type).toList)
    (hargs : ∀ a ∈ args, IsArguments a)
    (hblank : args = none → ∀ c ∈ rest.head?, Text.isBlank c = true) :
    d.resolveType (type.token ++ String.ofList (Parts.group args ++ rest)) =
        String.ofList ((p.given args).write ++ rest) ∨
      args ≠ none ∧ d.resolveType (type.token ++ String.ofList (Parts.group args ++ rest)) =
        type.token ++ String.ofList (Parts.group args ++ rest) := by
  rw [d.resolveType_token type _ (isWord_group hblank), ← hwrite]
  obtain h | ⟨hne, h⟩ := substitute?_group hp hargs hblank
  · rw [h]
    exact .inl rfl
  · rw [h]
    exact .inr ⟨hne, rfl⟩

/-- A token with a parenthesis behind it, but no arguments, stays as it is. -/
theorem resolveType_unread (d : Dialect) (type : ColumnType) {inside : List Char}
    (h : arguments? ('(' :: inside) = none) :
    d.resolveType (type.token ++ String.ofList ('(' :: inside)) =
      type.token ++ String.ofList ('(' :: inside) := by
  rw [d.resolveType_token type _ (isWord_opening inside), substitute?_of_none h (by decide)]
  rfl

/-- **What is written behind a token stays as it is, or it is read** as arguments and what follows
them. These are the arguments that were written, unless they have a closing parenthesis inside. -/
theorem resolveType_or_read (d : Dialect) (type : ColumnType) (args : Option (List Char))
    (hblank : ∀ c ∈ rest.head?, Text.isBlank c = true) (hrest : ')' ∉ rest) :
    d.resolveType (type.token ++ String.ofList (Parts.group args ++ rest)) =
        type.token ++ String.ofList (Parts.group args ++ rest) ∨
      ∃ args' rest', Parts.group args ++ rest = Parts.group args' ++ rest' ∧
        (∀ a ∈ args', IsArguments a) ∧
          (args' = none → ∀ c ∈ rest'.head?, Text.isBlank c = true) ∧
            ((∀ a ∈ args, ')' ∉ a) → rest' = rest) := by
  cases args with
  | none => exact .inr ⟨none, rest, rfl, by simp, fun _ => hblank, fun _ => rfl⟩
  | some a =>
    have hshape : Parts.group (some a) ++ rest = '(' :: (a ++ ')' :: rest) := by
      simp [Parts.group]
    rw [hshape]
    cases hread : arguments? ('(' :: (a ++ ')' :: rest)) with
    | none => exact .inl (d.resolveType_unread type hread)
    | some read =>
      obtain ⟨b, tail⟩ := read
      obtain ⟨hb, heq⟩ := exists_of_arguments? hread
      refine .inr ⟨some b, tail, by simpa [Parts.group] using heq, by simpa using hb,
        fun h => absurd h (Option.some_ne_none b), fun hplain => ?_⟩
      have hne : a ≠ [] := by
        rintro rfl
        rw [List.nil_append, arguments?_nothing hrest] at hread
        cases hread
      -- without a closing parenthesis inside, the arguments are read to their end
      rw [arguments?_group (isArguments_of_notMem hne (hplain a rfl))] at hread
      split at hread
      · cases hread
      · cases hread
        rfl

/-! ### Resolving again -/

/-- The head of a resolved text is that of the physical type. -/
theorem head_write (args : Option (List Char)) (hp : p.Regular)
    (hblank : p.arguments = none → ∀ c ∈ rest.head?, Text.isBlank c = true) :
    head (String.ofList ((p.given args).write ++ rest)) = String.ofList p.head := by
  have hbehind : ∀ c ∈ (Parts.group (p.given args).arguments ++ (p.tail ++ rest)).head?,
      Text.isWord c = false :=
    isWord_group fun hnone => blank_append hp (hblank (Parts.arguments_of_given hnone))
  rw [head, String.toList_ofList, Parts.write, Parts.given_head, Parts.given_tail,
    List.append_assoc, List.append_assoc, (Text.takeWhile_run hp.head_isWord hbehind).1]

/-- **A type that its own head stands for, or whose head is no token, is settled.** -/
theorem resolveType_settled (hp : p.Regular)
    (hrepeats : ∀ type : ColumnType, type.token = String.ofList p.head →
      ∃ q : Parts, q.Regular ∧ q.write = (d.physicalType type).toList ∧ p.Repeats q)
    (hargs : ∀ a ∈ args, IsArguments a)
    (hblank : p.arguments = none → ∀ c ∈ rest.head?, Text.isBlank c = true) :
    d.resolveType (String.ofList ((p.given args).write ++ rest)) =
      String.ofList ((p.given args).write ++ rest) := by
  have hhead := head_write args hp hblank
  cases htype : ColumnType.ofToken? (head (String.ofList ((p.given args).write ++ rest))) with
  | none => exact d.resolveType_of_unknown htype
  | some type =>
    have htoken := (ColumnType.token_of_ofToken? htype).trans hhead
    obtain ⟨q, hq, hwrite, hpq⟩ := hrepeats type htoken
    have hshape : String.ofList ((p.given args).write ++ rest) = type.token ++
        String.ofList (Parts.group (p.given args).arguments ++ (p.tail ++ rest)) := by
      rw [htoken, ← String.ofList_append, Parts.write, Parts.given_head, Parts.given_tail,
        List.append_assoc, List.append_assoc]
    -- the head takes back the arguments that it stands in front of
    have hresolve := d.resolveType_group type (p.given args).arguments (p.tail ++ rest) hq hwrite
      (Parts.isArguments_given hp hargs)
      (fun hnone => blank_append hp (hblank (Parts.arguments_of_given hnone)))
    rw [← hshape] at hresolve
    obtain h | ⟨-, h⟩ := hresolve
    · rw [h, ← List.append_assoc, hpq.write_given]
    · exact h

/-- All physical types but one are settled by their heads. -/
theorem exists_repeats (hd : d ∈ [mysql, postgres, brackets]) {type : ColumnType}
    (hone : d.physicalType type ≠ "double precision") :
    ∃ p : Parts, p.Regular ∧ p.write = (d.physicalType type).toList ∧
      ∀ type' : ColumnType, type'.token = String.ofList p.head →
        ∃ q : Parts, q.Regular ∧ q.write = (d.physicalType type').toList ∧ p.Repeats q := by
  have hrepeats : (ColumnType.ofToken?
      (String.ofList (Parts.of (d.physicalType type).toList).head)).all (fun type' =>
        decide ((Parts.of (d.physicalType type).toList).Repeats
          (Parts.of (d.physicalType type').toList))) = true := by
    simp only [List.mem_cons, List.not_mem_nil, or_false] at hd
    obtain rfl | rfl | rfl := hd <;> revert hone <;> cases type <;> decide
  obtain ⟨hp, hwrite⟩ := parts_of hd type
  refine ⟨_, hp, hwrite, fun type' htype => ?_⟩
  obtain ⟨hq, hwrite'⟩ := parts_of hd type'
  rw [← htype, type'.ofToken?_token] at hrepeats
  exact ⟨_, hq, hwrite', of_decide_eq_true hrepeats⟩

/-- A dialect with a type of the two words `double precision` has it for the token `double`. -/
theorem physicalType_double (hd : d ∈ [mysql, postgres, brackets]) {type : ColumnType}
    (htype : d.physicalType type = "double precision") :
    d.physicalType .double = "double precision" := by
  simp only [List.mem_cons, List.not_mem_nil, or_false] at hd
  obtain rfl | rfl | rfl := hd <;> revert htype <;> cases type <;> decide

/-- The two words, the first of which is a token. -/
def doublePrecision : Parts := ⟨"double".toList, none, " precision".toList⟩

/-- What stands for the two words, alone or with arguments, is the two words. -/
theorem resolveType_doublePrecision {type : ColumnType} (args : Option (List Char))
    (rest : List Char) (htype : d.physicalType type = "double precision")
    (hargs : ∀ a ∈ args, IsArguments a)
    (hblank : args = none → ∀ c ∈ rest.head?, Text.isBlank c = true) :
    d.resolveType (type.token ++ String.ofList (Parts.group args ++ rest)) =
        String.ofList ("double precision".toList ++ rest) ∨
      args ≠ none ∧ d.resolveType (type.token ++ String.ofList (Parts.group args ++ rest)) =
        type.token ++ String.ofList (Parts.group args ++ rest) := by
  have hwrite : doublePrecision.write = (d.physicalType type).toList := by
    rw [htype]
    decide
  have h := d.resolveType_group type args rest (by decide) hwrite hargs hblank
  rwa [Parts.given_of_none rfl, hwrite, htype] at h

/-- The two words are resolved to three, whatever stands behind them. -/
theorem resolveType_doublePrecision_append (hd : d ∈ [mysql, postgres, brackets])
    {type : ColumnType} (htype : d.physicalType type = "double precision") (rest : String) :
    d.resolveType ("double precision" ++ rest) = "double precision precision" ++ rest := by
  have hwords : "double precision" ++ rest = ColumnType.double.token ++
      String.ofList (Parts.group none ++ (" precision".toList ++ rest.toList)) := by
    apply String.toList_injective
    simp [Parts.group, ColumnType.token]
  obtain h | ⟨hne, -⟩ := resolveType_doublePrecision none (" precision".toList ++ rest.toList)
    (physicalType_double hd htype) (by simp) (fun _ => by simp; decide)
  · rw [hwords, h]
    apply String.toList_injective
    simp
  · exact absurd rfl hne

/-- **A resolved text is not changed when it is resolved again**, whatever token it was of, with
any arguments and with anything behind a blank — unless the token stood for `double precision`:
the first of these words is a token itself, and so the second is written twice. Arguments with a
closing parenthesis inside are taken where the physical type has arguments. -/
theorem resolves_again (hd : d ∈ [mysql, postgres, brackets]) (type : ColumnType)
    (args : Option String) (rest : String)
    (hargs : ∀ a ∈ args, ')' ∈ a.toList → '(' ∈ (d.physicalType type).toList)
    (hblank : ∀ c ∈ rest.toList.head?, Text.isBlank c = true) (hrest : ')' ∉ rest.toList) :
    (d.physicalType type ≠ "double precision" →
        d.resolveType (d.resolveType (written type.token args rest)) =
          d.resolveType (written type.token args rest)) ∧
      (d.physicalType type = "double precision" →
        d.resolveType (written type.token args rest) = written type.token args rest ∨
          d.resolveType (written type.token args rest) = "double precision" ++ rest ∧
            d.resolveType (d.resolveType (written type.token args rest)) =
              "double precision precision" ++ rest) := by
  have hshape : written type.token args rest =
      type.token ++ String.ofList (Parts.group (args.map String.toList) ++ rest.toList) := by
    apply String.toList_injective
    simp [written]
  have hplain (hnone : '(' ∉ (d.physicalType type).toList) :
      ∀ a ∈ args.map String.toList, ')' ∉ a := by
    intro a ha
    obtain ⟨s, hs, rfl⟩ := Option.map_eq_some_iff.mp ha
    exact mt (hargs s hs) hnone
  rw [hshape]
  obtain h | ⟨args', rest', heq, hargs', hblank', hrest'⟩ :=
    d.resolveType_or_read type (args.map String.toList) hblank hrest
  · -- what is not read is not changed, once or twice
    exact ⟨fun _ => by rw [h, h], fun _ => .inl h⟩
  refine ⟨fun hone => ?_, fun hone => ?_⟩
  · obtain ⟨p, hp, hwrite, hrepeats⟩ := exists_repeats hd hone
    -- a type without arguments needs a blank behind it, or its word would go on
    have hbehind (hnone : p.arguments = none) : ∀ c ∈ rest'.head?, Text.isBlank c = true := by
      rw [hrest' (hplain fun hopen => Parts.arguments_ne_none hp (hwrite ▸ hopen) hnone)]
      exact hblank
    rw [heq]
    obtain h | ⟨-, h⟩ := d.resolveType_group type args' rest' hp hwrite hargs' hblank'
    · rw [h, resolveType_settled hp hrepeats hargs' hbehind]
    · rw [h, h]
  · obtain rfl := hrest' (hplain (by rw [hone]; decide))
    rw [heq]
    obtain h | ⟨-, h⟩ := resolveType_doublePrecision args' rest.toList hone hargs' hblank'
    · refine .inr ?_
      rw [h, String.ofList_append, String.ofList_toList, String.ofList_toList]
      exact ⟨rfl, resolveType_doublePrecision_append hd hone rest⟩
    · exact .inl h

/-- Arguments and a constraint are there after the first time, and no more after the second. -/
theorem resolves_again_money :
    postgres ∈ [mysql, postgres, brackets] ∧
      postgres.resolveType (postgres.resolveType (written ColumnType.money.token (some "12,2")
        " NOT NULL")) = "numeric(12,2) NOT NULL" := by
  have hpostgres : postgres ∈ [mysql, postgres, brackets] := .tail _ (.head _)
  have hagain := (resolves_again hpostgres .money (some "12,2") " NOT NULL" (by decide)
    (by simp; decide) (by decide)).1 (by decide)
  exact ⟨hpostgres, hagain.trans (by decide)⟩

/-- The two words that a token stands for are three words when they are resolved again. -/
theorem double_resolves_again :
    postgres.resolveType "double precision" = "double precision precision" ∧
      postgres.resolveType (postgres.resolveType ColumnType.double.token) ≠
        postgres.resolveType ColumnType.double.token := by
  decide

end Dialect

end SqlCompose

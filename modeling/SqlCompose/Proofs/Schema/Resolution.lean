import SqlCompose.Dialect.Brackets
import SqlCompose.Dialect.MySql
import SqlCompose.Dialect.Postgres
import SqlCompose.Proofs.Text.Split
import SqlCompose.Schema.TypeText
/-!
# What a type text stands for

A type text is read from its beginning: the word at its head, up to the first character that is
none of a word, is the token of an abstract type or it is not. If it is not, the text is a physical
type and stays as it is (`Dialect.resolveType_of_unknown`). If it is, everything depends on what
follows the token (`Dialect.resolveType_token`): nothing, arguments in parentheses
(`TypeText.arguments?_group`), or a blank.

A physical type is a word with at most one pair of parentheses, right behind it
(`TypeText.Parts`). Arguments take the place of those of the physical type
(`TypeText.withArguments_write`), and a physical type without parentheses does not take any.
`Dialect.resolves_head` puts this together for each dialect, with a case for arguments
(`Dialect.resolveType_arguments`) and one for a blank (`Dialect.resolveType_blank`).
-/

namespace SqlCompose

namespace Text

/-- The code points of the blanks. -/
def blankCodes : List Nat :=
  List.range' 0x09 5 ++ [0x20, 0x85, 0xA0, 0x1680] ++ List.range' 0x2000 11 ++
    [0x2028, 0x2029, 0x202F, 0x205F, 0x3000]

theorem toNat_mem_blankCodes {c : Char} (h : isBlank c = true) : c.toNat ∈ blankCodes := by
  simp only [isBlank, Bool.or_eq_true, Bool.and_eq_true, decide_eq_true_eq, beq_iff_eq] at h
  simp only [blankCodes, List.mem_append, List.mem_range'_1, List.mem_cons, List.not_mem_nil]
  omega

/-- A blank is none of a word. -/
theorem isWord_of_isBlank {c : Char} (h : isBlank c = true) : isWord c = false := by
  have hcodes : ∀ n ∈ blankCodes, isWord (Char.ofNat n) = false := by decide +kernel
  rw [← Char.ofNat_toNat c]
  exact hcodes _ (toNat_mem_blankCodes h)

end Text

namespace ColumnType

theorem ofToken?_token (type : ColumnType) : ofToken? type.token = some type := by
  cases type <;> decide

theorem token_of_ofToken? {token : String} {type : ColumnType} (h : ofToken? token = some type) :
    type.token = token := by
  simpa using List.find?_some h

theorem isWord_token (type : ColumnType) : ∀ c ∈ type.token.toList, Text.isWord c = true := by
  rw [← List.all_eq_true]
  cases type <;> decide

end ColumnType

namespace TypeText

/-- The word at the head of a type text. -/
def head (text : String) : String := String.ofList (text.toList.takeWhile Text.isWord)

/-! ### Physical types -/

/-- **A physical type taken apart**: a word, arguments in parentheses right behind it, if there are
any, and the rest. -/
structure Parts where
  head : List Char
  arguments : Option (List Char)
  tail : List Char

namespace Parts

/-- The arguments in their parentheses. -/
def group : Option (List Char) → List Char
  | none => []
  | some args => '(' :: (args ++ [')'])

/-- The type put together. -/
def write (p : Parts) : List Char := p.head ++ (group p.arguments ++ p.tail)

/-- A physical type in its parts. -/
def of (cs : List Char) : Parts :=
  let head := cs.takeWhile Text.isWord
  match cs.dropWhile Text.isWord with
  | '(' :: more => ⟨head, some (more.takeWhile (· ≠ ')')), (more.dropWhile (· ≠ ')')).drop 1⟩
  | tail => ⟨head, none, tail⟩

/-- The same type with other arguments, if it takes any. -/
def withArguments (p : Parts) (args : List Char) : Parts :=
  { p with arguments := p.arguments.map fun _ => args }

/-- Parts that can be told from one another: the head is a word, there is something between the
parentheses, what follows is set off by a blank, and no other parentheses stand anywhere. -/
structure Regular (p : Parts) : Prop where
  head_isWord : ∀ c ∈ p.head, Text.isWord c = true
  blank_tail : ∀ c ∈ p.tail.head?, Text.isBlank c = true
  arguments_ne_nil : p.arguments ≠ some []
  notMem_arguments : ∀ args ∈ p.arguments, ')' ∉ args
  notMem_tail : '(' ∉ p.tail ∧ ')' ∉ p.tail

instance (p : Parts) : Decidable p.Regular :=
  decidable_of_iff
    ((p.head.all Text.isWord = true ∧ p.tail.head?.all Text.isBlank = true) ∧
      p.arguments ≠ some [] ∧ p.arguments.all (!·.contains ')') = true ∧
        '(' ∉ p.tail ∧ ')' ∉ p.tail)
    ⟨fun ⟨⟨h₁, h₂⟩, h₃, h₄, h₅⟩ => ⟨by simpa using h₁, by simpa [Option.all_eq_true] using h₂, h₃,
        by simpa [Option.all_eq_true] using h₄, h₅⟩,
      fun h => ⟨⟨by simpa using h.head_isWord, by simpa [Option.all_eq_true] using h.blank_tail⟩,
        h.arguments_ne_nil, by simpa [Option.all_eq_true] using h.notMem_arguments,
        h.notMem_tail⟩⟩

variable {p : Parts} {args : List Char}

@[simp] theorem withArguments_head : (p.withArguments args).head = p.head := rfl

@[simp] theorem withArguments_tail : (p.withArguments args).tail = p.tail := rfl

theorem withArguments_of_none (h : p.arguments = none) : p.withArguments args = p := by
  rw [withArguments, h]
  exact congrArg (mk p.head · p.tail) h.symm

theorem withArguments_of_some {inside : List Char} (h : p.arguments = some inside) :
    (p.withArguments args).arguments = some args := by
  rw [withArguments, h]
  rfl

theorem notMem_head (h : p.Regular) : '(' ∉ p.head := fun hmem => by
  have := h.head_isWord _ hmem
  exact absurd this (by decide)

theorem write_of_none (h : p.arguments = none) : p.write = p.head ++ p.tail := by
  rw [write, h]
  rfl

theorem write_of_some (h : p.arguments = some args) :
    p.write = p.head ++ '(' :: (args ++ ')' :: p.tail) := by
  rw [write, h, group, List.cons_append, List.append_assoc]
  rfl

end Parts

/-- **Arguments take the place of those of a physical type**, and of nothing else. -/
theorem withArguments_write {p : Parts} (h : p.Regular) (args : List Char) :
    withArguments args p.write = (p.withArguments args).write := by
  cases hinside : p.arguments with
  | none =>
    have hwrite : p.write = p.head ++ p.tail := Parts.write_of_none hinside
    have hplain : '(' ∉ p.head ++ p.tail := fun hmem =>
      (List.mem_append.mp hmem).elim (Parts.notMem_head h) h.notMem_tail.1
    have hdrop := Text.dropWhile_ne_of_notMem hplain
    rw [Parts.withArguments_of_none hinside, hwrite, withArguments, hdrop]
  | some inside =>
    obtain ⟨c, inside, rfl⟩ := List.exists_cons_of_ne_nil fun hnil =>
      h.arguments_ne_nil (hinside.trans (congrArg some hnil))
    have hwrite : p.write = p.head ++ '(' :: (c :: (inside ++ ')' :: p.tail)) :=
      Parts.write_of_some hinside
    obtain ⟨htake, hdrop⟩ := Text.takeWhile_ne (Parts.notMem_head h)
      (c :: (inside ++ ')' :: p.tail))
    -- the closing parenthesis is the last one
    have hlast : Text.splitLast? ')' (String.ofList (inside ++ ')' :: p.tail)) =
        some (String.ofList inside, String.ofList p.tail) := by
      have hlist : String.ofList (inside ++ ')' :: p.tail) =
          String.ofList inside ++ String.ofList [')'] ++ String.ofList p.tail := by
        rw [← String.ofList_append, ← String.ofList_append, List.append_assoc]
        rfl
      rw [hlist]
      refine Text.splitLast?_between ?_
      rw [String.toList_ofList]
      exact h.notMem_tail.2
    rw [hwrite, withArguments, hdrop, htake,
      Parts.write_of_some (Parts.withArguments_of_some hinside)]
    dsimp only
    rw [hlast]
    simp

/-- **A physical type with other arguments**: they take the place of what stands between its
parentheses, from the first one that opens to the last one that closes. A type that has none stays
as it is. -/
inductive Regrouped (args : String) : String → String → Prop
  | plain {physical : String} (h : '(' ∉ physical.toList) : Regrouped args physical physical
  | group {before inside behind : String} (hbefore : '(' ∉ before.toList)
      (hbehind : ')' ∉ behind.toList) :
      Regrouped args (before ++ "(" ++ inside ++ ")" ++ behind)
        (before ++ "(" ++ args ++ ")" ++ behind)

/-- The parentheses in a type are those around its arguments. -/
theorem regrouped_withArguments {p : Parts} (h : p.Regular) (args : String) :
    Regrouped args (String.ofList p.write)
      (String.ofList (p.withArguments args.toList).write) := by
  cases hinside : p.arguments with
  | none =>
    rw [Parts.withArguments_of_none hinside]
    refine .plain fun hmem => ?_
    rw [String.toList_ofList, Parts.write_of_none hinside, List.mem_append] at hmem
    exact hmem.elim (Parts.notMem_head h) h.notMem_tail.1
  | some inside =>
    -- the arguments are the only group: no parenthesis opens before, and none closes behind
    have hbefore : String.ofList p.write =
        String.ofList p.head ++ "(" ++ String.ofList inside ++ ")" ++ String.ofList p.tail := by
      apply String.toList_injective
      simp [Parts.write_of_some hinside]
    have hafter : String.ofList (p.withArguments args.toList).write =
        String.ofList p.head ++ "(" ++ args ++ ")" ++ String.ofList p.tail := by
      apply String.toList_injective
      simp [Parts.write_of_some (Parts.withArguments_of_some hinside)]
    rw [hbefore, hafter]
    refine .group ?_ ?_
    · rw [String.toList_ofList]
      exact Parts.notMem_head h
    · rw [String.toList_ofList]
      exact h.notMem_tail.2

/-! ### What follows a token -/

variable {args tail physical : List Char} {c : Char}

/-- **Arguments that are read as they stand**: one character at least, and no closing parenthesis
behind it. -/
structure IsArguments (args : List Char) : Prop where
  ne_nil : args ≠ []
  notMem_tail : ')' ∉ args.tail

theorem isArguments_of_notMem (hne : args ≠ []) (h : ')' ∉ args) : IsArguments args :=
  ⟨hne, mt List.mem_of_mem_tail h⟩

/-- Arguments are read up to the closing parenthesis, if the text is a single line. -/
theorem arguments?_group (h : IsArguments args) (tail : List Char) :
    arguments? ('(' :: (args ++ ')' :: tail)) =
      if '\n' ∈ args ++ ')' :: tail then none else some (args, tail) := by
  obtain ⟨c, args, rfl⟩ := List.exists_cons_of_ne_nil h.ne_nil
  obtain ⟨htake, hdrop⟩ := Text.takeWhile_ne h.notMem_tail tail
  dsimp only [List.tail_cons] at htake hdrop
  rw [List.cons_append, arguments?, htake, hdrop]
  by_cases hline : '\n' ∈ c :: (args ++ ')' :: tail)
  · exact (if_pos (List.contains_iff_mem.mpr hline)).trans (if_pos hline).symm
  · exact (if_neg fun h => hline (List.contains_iff_mem.mp h)).trans (if_neg hline).symm

/-- What is read stands in parentheses. -/
theorem exists_of_arguments? {cs : List Char} (h : arguments? cs = some (args, tail)) :
    IsArguments args ∧ cs = '(' :: (args ++ ')' :: tail) := by
  unfold arguments? at h
  split at h
  · next c cs =>
    -- `c` is taken whatever it is, and the first closing parenthesis behind it ends the arguments
    by_cases hclose : ')' ∈ cs
    · obtain ⟨front, back, rfl, hfront⟩ := List.eq_append_cons_of_mem hclose
      obtain ⟨htake, hdrop⟩ := Text.takeWhile_ne hfront back
      rw [htake, hdrop] at h
      dsimp only at h
      split at h
      · cases h
      · cases h
        exact ⟨⟨List.cons_ne_nil _ _, hfront⟩, rfl⟩
    · rw [Text.dropWhile_ne_of_notMem hclose] at h
      cases h
  · cases h

/-- There are no arguments without a character between the parentheses. -/
theorem arguments?_nothing (h : ')' ∉ tail) : arguments? ('(' :: ')' :: tail) = none := by
  rw [Option.eq_none_iff_forall_ne_some]
  rintro ⟨args, rest⟩ hread
  obtain ⟨hargs, heq⟩ := exists_of_arguments? hread
  obtain ⟨c, args, rfl⟩ := List.exists_cons_of_ne_nil hargs.ne_nil
  -- the parenthesis that closes stands behind the first character
  obtain ⟨-, htail⟩ := List.cons_eq_cons.mp (List.cons_eq_cons.mp heq).2
  rw [htail] at h
  exact h (List.mem_append_right _ (.head _))

theorem arguments?_of_ne (h : c ≠ '(') : arguments? (c :: tail) = none := by
  rw [Option.eq_none_iff_forall_ne_some]
  rintro ⟨args, rest⟩ hread
  exact h (List.cons_eq_cons.mp (exists_of_arguments? hread).2).1

/-- A token ends in front of a parenthesis. -/
theorem isWord_opening (inside : List Char) :
    ∀ c ∈ ('(' :: inside).head?, Text.isWord c = false := by
  intro c hc
  obtain rfl : '(' = c := by simpa using hc
  decide

/-- What follows behind a blank is kept. -/
theorem substitute?_blank (hc : Text.isBlank c = true) :
    substitute? physical (c :: tail) = some (physical ++ c :: tail) := by
  have hparen : c ≠ '(' := by
    rintro rfl
    exact absurd hc (by decide)
  rw [substitute?, arguments?_of_ne hparen]
  exact if_pos hc

theorem substitute?_of_some (h : arguments? (c :: tail) = some (args, rest)) :
    substitute? physical (c :: tail) = some (withArguments args physical ++ rest) := by
  rw [substitute?, h]

theorem substitute?_of_none (h : arguments? (c :: tail) = none) (hc : Text.isBlank c = false) :
    substitute? physical (c :: tail) = none := by
  rw [substitute?, h]
  exact if_neg (ne_true_of_eq_false hc)

end TypeText

namespace Dialect

open TypeText

/-! ### Type texts -/

/-- A text without a token at its head is a physical type. -/
theorem resolveType_of_unknown (d : Dialect) {text : String}
    (h : ColumnType.ofToken? (head text) = none) : d.resolveType text = text := by
  rw [head] at h
  unfold resolveType
  dsimp only
  rw [h]

/-- What a token with something behind it stands for. -/
theorem resolveType_token (d : Dialect) (type : ColumnType) (rest : List Char)
    (hrest : ∀ c ∈ rest.head?, Text.isWord c = false) :
    d.resolveType (type.token ++ String.ofList rest) =
      ((substitute? (d.physicalType type).toList rest).map String.ofList).getD
        (type.token ++ String.ofList rest) := by
  obtain ⟨htake, hdrop⟩ := Text.takeWhile_run type.isWord_token hrest
  unfold resolveType
  dsimp only
  rw [String.toList_append, String.toList_ofList, htake, hdrop, String.ofList_toList,
    type.ofToken?_token]
  dsimp only
  cases substitute? (d.physicalType type).toList rest <;> rfl

/-- Every physical type of a dialect is a word, arguments if it has any, and what is behind. -/
theorem parts_of {d : Dialect} (hd : d ∈ [mysql, postgres, brackets]) (type : ColumnType) :
    (Parts.of (d.physicalType type).toList).Regular ∧
      (Parts.of (d.physicalType type).toList).write = (d.physicalType type).toList := by
  simp only [List.mem_cons, List.not_mem_nil, or_false] at hd
  obtain rfl | rfl | rfl := hd <;> cases type <;> decide

/-- A token with arguments, on a single line, is its physical type with these. -/
theorem resolveType_arguments {d : Dialect} (hd : d ∈ [mysql, postgres, brackets])
    (type : ColumnType) {args rest : String} (hne : args ≠ "") (hclose : ')' ∉ args.toList)
    (hargs : '\n' ∉ args.toList) (hrest : '\n' ∉ rest.toList) :
    ∃ physical, Regrouped args (d.physicalType type) physical ∧
      d.resolveType (type.token ++ "(" ++ args ++ ")" ++ rest) = physical ++ rest := by
  obtain ⟨hp, hwrite⟩ := parts_of hd type
  have hline : '\n' ∉ args.toList ++ ')' :: rest.toList := by
    simp [hargs, hrest]
  -- what follows the token is read as one group, with the rest behind it
  have hread := (arguments?_group
    (isArguments_of_notMem (mt String.toList_eq_nil_iff.mp hne) hclose) rest.toList).trans
    (if_neg hline)
  -- the text as the characters that are read
  have htext : type.token ++ "(" ++ args ++ ")" ++ rest =
      type.token ++ String.ofList ('(' :: (args.toList ++ ')' :: rest.toList)) := by
    apply String.toList_injective
    simp
  have hresolve := d.resolveType_token type ('(' :: (args.toList ++ ')' :: rest.toList))
    (isWord_opening _)
  rw [← htext, substitute?_of_some hread, ← hwrite, withArguments_write hp] at hresolve
  have hregroup := regrouped_withArguments hp args
  rw [hwrite, String.ofList_toList] at hregroup
  refine ⟨_, hregroup, hresolve.trans ?_⟩
  rw [Option.map_some, Option.getD_some, String.ofList_append, String.ofList_toList]

/-- What follows a token behind a blank follows its physical type. -/
theorem resolveType_blank (d : Dialect) (type : ColumnType) {blank : Char}
    (hblank : Text.isBlank blank = true) (s : String) :
    d.resolveType (type.token ++ String.singleton blank ++ s) =
      d.physicalType type ++ String.singleton blank ++ s := by
  have htext : type.token ++ String.singleton blank ++ s =
      type.token ++ String.ofList (blank :: s.toList) := by
    apply String.toList_injective
    simp
  have hresolve := d.resolveType_token type (blank :: s.toList)
    (by simpa using Text.isWord_of_isBlank hblank)
  rw [← htext, substitute?_blank hblank] at hresolve
  rw [hresolve]
  apply String.toList_injective
  simp

/-- **Exactly the token at the head of a type text is resolved.** A text that does not begin with
one stays as it is. A token alone is the physical type; arguments behind it, on a single line, are
those of the physical type, whatever characters they are of; and what follows them, or follows
the token behind a blank, is kept. -/
theorem resolves_head {d : Dialect} (hd : d ∈ [mysql, postgres, brackets]) (text : String) :
    ((∀ type : ColumnType, type.token ≠ head text) → d.resolveType text = text) ∧
      ∀ type : ColumnType, type.token = head text →
        (text = head text → d.resolveType text = d.physicalType type) ∧
          (∀ args rest : String, text = head text ++ "(" ++ args ++ ")" ++ rest →
            args ≠ "" → ')' ∉ args.toList → '\n' ∉ args.toList → '\n' ∉ rest.toList →
              ∃ physical, Regrouped args (d.physicalType type) physical ∧
                d.resolveType text = physical ++ rest) ∧
          ∀ (blank : Char) (s : String), Text.isBlank blank = true →
            text = head text ++ String.singleton blank ++ s →
              d.resolveType text = d.physicalType type ++ String.singleton blank ++ s := by
  refine ⟨fun hunknown => ?_, fun type htype => ⟨fun htext => ?_, ?_, ?_⟩⟩
  · refine d.resolveType_of_unknown ?_
    -- a token that is read is that of a type
    rw [Option.eq_none_iff_forall_ne_some]
    exact fun type htype => hunknown type (ColumnType.token_of_ofToken? htype)
  · have hresolve := d.resolveType_token type [] (by simp)
    -- nothing follows the token
    rw [String.ofList_nil, String.append_empty, htype, ← htext] at hresolve
    rw [hresolve, substitute?]
    exact String.ofList_toList
  · intro args rest htext hne hclose hargs hrest
    rw [htext, ← htype]
    exact resolveType_arguments hd type hne hclose hargs hrest
  · intro blank s hblank htext
    rw [htext, ← htype]
    exact d.resolveType_blank type hblank s

/-- Arguments are taken as they are, and parentheses behind them are not arguments. -/
theorem resolves_head_dollar :
    mysql ∈ [mysql, postgres, brackets] ∧
      ColumnType.bigPk.token = head "bigpk($1) CHECK (x)" ∧
        (∃ physical, Regrouped "$1" (mysql.physicalType .bigPk) physical ∧
          mysql.resolveType "bigpk($1) CHECK (x)" = physical ++ " CHECK (x)") ∧
          mysql.resolveType "bigpk($1) CHECK (x)" =
            "bigint($1) NOT NULL AUTO_INCREMENT PRIMARY KEY CHECK (x)" := by
  have hmysql : mysql ∈ [mysql, postgres, brackets] := .head _
  have htoken : ColumnType.bigPk.token = head "bigpk($1) CHECK (x)" := by decide
  have hargs := ((resolves_head hmysql "bigpk($1) CHECK (x)").2 .bigPk htoken).2.1 "$1" " CHECK (x)"
    (by decide) (by decide) (by decide) (by decide) (by decide)
  exact ⟨hmysql, htoken, hargs, by decide⟩

end Dialect

end SqlCompose

import SqlCompose.Text.Blank
import SqlCompose.Text.Word
/-!
# Inline aliases

An entry such as `name AS n` or `name n` is a name with an alias behind it. The two
are told apart by the shortest beginning, on one line, after which blanks and then the
alias follow up to the end; a blank and the word `as` in front of those blanks belong
to neither.
-/

namespace SqlCompose.Alias

/-- Whether a character is the letter `a` in either case. -/
def isLetterA (c : Char) : Bool := c == 'a' || c == 'A'

/-- Whether a character is the letter `s` in either case; the long `ſ` is one. -/
def isLetterS (c : Char) : Bool := c == 's' || c == 'S' || c == '\u017F'

/-- The alias behind at least one blank, all of whose characters are `allowed` ones. If
the text ends in blanks the last of them may be an alias. -/
def afterBlanks? (allowed : Char → Bool) (cs : List Char) : Option (List Char) :=
  let blanks := cs.takeWhile Text.isBlank
  match cs.dropWhile Text.isBlank with
  | [] =>
    match blanks.reverse with
    | last :: _ :: _ => if allowed last then some [last] else none
    | _ => none
  | rest => if !blanks.isEmpty && rest.all allowed then some rest else none

/-- The alias behind blanks and the word `as`. -/
def afterWord? (allowed : Char → Bool) (cs : List Char) : Option (List Char) :=
  match cs with
  | c :: _ =>
    if Text.isBlank c then
      match cs.dropWhile Text.isBlank with
      | a :: s :: rest => if isLetterA a && isLetterS s then afterBlanks? allowed rest else none
      | _ => none
    else none
  | [] => none

/-- The alias for which a text is what stands between a name and the end. -/
def behind? (allowed : Char → Bool) (cs : List Char) : Option (List Char) :=
  (afterWord? allowed cs).orElse fun _ => afterBlanks? allowed cs

/-- The name and the alias of a text with an alias. -/
def split? (allowed : Char → Bool) : List Char → Option (List Char × List Char)
  | [] => none
  | c :: cs =>
    match behind? allowed (c :: cs) with
    | some name => some ([], name)
    | none =>
      if c = '\n' then none else (split? allowed cs).map fun r => (c :: r.1, r.2)

theorem split?_nil (allowed : Char → Bool) : split? allowed [] = none := by
  rw [split?.eq_def]

/-- The alias stands behind what is here, or further behind on the same line. -/
theorem split?_cons (allowed : Char → Bool) (c : Char) (cs : List Char) :
    split? allowed (c :: cs) =
      (behind? allowed (c :: cs)).elim
        (if c = '\n' then none else (split? allowed cs).map fun r => (c :: r.1, r.2))
        fun name => some ([], name) := by
  rw [split?.eq_def]
  dsimp only
  cases behind? allowed (c :: cs) <;> rfl

/-- Whether a character may stand in the alias of a column. -/
def inColumn (c : Char) : Bool := Text.isWord c || c == '-' || c == '.'

/-- Whether a character may stand in the alias of a table. -/
def inTable (c : Char) : Bool := c != ' '

/-- The expression and the alias of a column with an alias. -/
def ofColumn? (text : String) : Option (String × String) :=
  (split? inColumn text.toList).map fun r => (String.ofList r.1, String.ofList r.2)

/-- The name and the alias of a table with an alias. -/
def ofTable? (text : String) : Option (String × String) :=
  (split? inTable text.toList).map fun r => (String.ofList r.1, String.ofList r.2)

end SqlCompose.Alias

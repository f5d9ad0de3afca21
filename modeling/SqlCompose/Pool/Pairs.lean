import SqlCompose.Pool.Options
import SqlCompose.Text.Blank
/-!
# Connection strings of pairs

The form `name = value name = value …`, with blanks around names and values. A value in
single quotes may hold blanks, and a backslash takes the character behind it as it is.
The text ends where a name would have to be and is none.
-/

namespace SqlCompose.Pairs

/-- What the reader of pairs has in front of it. -/
inductive Mode
  /-- Blanks, then a name or the end. -/
  | start
  /-- A name; what has been read of it is last first. -/
  | name (read : List Char)
  /-- Blanks behind a name, then an equals sign. -/
  | equals (name : String)
  /-- Blanks, then a value. -/
  | value (name : String)
  /-- A value without quotes; what has been read of it is last first. -/
  | plain (name : String) (read : List Char)
  /-- The character behind a backslash in a value without quotes. -/
  | plainEscape (name : String) (read : List Char)
  /-- A value in quotes. -/
  | quoted (name : String) (read : List Char)
  /-- The character behind a backslash in a value in quotes. -/
  | quotedEscape (name : String) (read : List Char)
  /-- Nothing more, whatever follows. -/
  | done

/-- A text from its characters, last first. -/
def textOf (read : List Char) : String := String.ofList read.reverse

/-- The option of a value without quotes, which is not empty. -/
def plainOption? (name : String) (read : List Char) : Option ConnectionOption :=
  if read.isEmpty then none else some ⟨name, textOf read⟩

/-- One character of a text of pairs: the options that it ends, and what comes next. -/
def step? (mode : Mode) (c : Char) : Option (List ConnectionOption × Mode) :=
  match mode with
  | .start =>
    if Text.isBlank c then some ([], .start)
    else if c = '=' then some ([], .done)
    else some ([], .name [c])
  | .name read =>
    if Text.isBlank c then some ([], .equals (textOf read))
    else if c = '=' then some ([], .value (textOf read))
    else some ([], .name (c :: read))
  | .equals name =>
    if Text.isBlank c then some ([], .equals name)
    else if c = '=' then some ([], .value name)
    else none
  | .value name =>
    if Text.isBlank c then some ([], .value name)
    else if c = '\'' then some ([], .quoted name [])
    else if c = '\\' then some ([], .plainEscape name [])
    else some ([], .plain name [c])
  | .plain name read =>
    if Text.isBlank c then (plainOption? name read).map fun o => ([o], .start)
    else if c = '\\' then some ([], .plainEscape name read)
    else some ([], .plain name (c :: read))
  | .plainEscape name read => some ([], .plain name (c :: read))
  | .quoted name read =>
    if c = '\'' then some ([⟨name, textOf read⟩], .start)
    else if c = '\\' then some ([], .quotedEscape name read)
    else some ([], .quoted name (c :: read))
  | .quotedEscape name read => some ([], .quoted name (c :: read))
  | .done => some ([], .done)

/-- The options that the end of a text ends. -/
def finish? : Mode → Option (List ConnectionOption)
  | .start | .done => some []
  | .plain name read | .plainEscape name read => (plainOption? name read).map ([·])
  | _ => none

/-- The options in a text of pairs. -/
def read? (mode : Mode) : List Char → Option (List ConnectionOption)
  | [] => finish? mode
  | c :: cs => do
    let (options, next) ← step? mode c
    let rest ← read? next cs
    some (options ++ rest)

end SqlCompose.Pairs

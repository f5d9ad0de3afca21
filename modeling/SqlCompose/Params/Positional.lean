import SqlCompose.Error
import SqlCompose.Params.Basic
/-!
# Positional parameters

Backends that bind by position want `?` or `$1`, `$2`, … in place of names. A scan goes
over the statement once and puts these markers there. A placeholder is a colon, a letter
or underscore, and further letters, digits and underscores. Quoted texts and identifiers
are passed over, and so is the double colon of a type cast.

With numbered markers a name that occurs again gets the number it had; with question
marks every occurrence has its own marker and its own copy of the value.
-/

namespace SqlCompose

/-- How a backend marks positional parameters. -/
inductive PlaceholderStyle
  /-- `?` for every parameter. -/
  | question
  /-- `$1`, `$2`, … -/
  | dollar
deriving DecidableEq

/-- A statement with positional markers, and the values for them in order. -/
structure Positional where
  sql : String
  values : List Value

namespace Positional

/-- Whether a character starts the name of a placeholder. -/
def isNameStart (c : Char) : Bool := c.isAlpha || c == '_'

/-- Whether a character goes on in the name of a placeholder. -/
def isNamePart (c : Char) : Bool := c.isAlphanum || c == '_'

/-- Whether a character opens a quoted run, which it also closes. -/
def isQuote (c : Char) : Bool := c == '\x27' || c == '\x22' || c == '\x60'

/-- What the scan of a statement stands in. -/
inductive Mode
  | plain
  /-- Within quotes, up to the next of this character. -/
  | quoted (q : Char)
  /-- Behind a single colon that has not been written yet. -/
  | colon
  /-- Within the name of a placeholder, of which this has been read, the last character
  first and without the colon. -/
  | name (read : List Char)

/-- What is known between two characters of a scan. -/
structure State where
  mode : Mode
  /-- The names that have numbers, in their order. -/
  numbered : List String

/-- What one character adds to the text and the values. -/
structure Output where
  text : List Char := []
  values : List Value := []

/-- The marker of a placeholder, with its value unless that has been given before, and
the numbered names afterwards. -/
def mark (params : Params) (style : PlaceholderStyle) (numbered : List String) (name : String) :
    Except Error (Output × List String) :=
  match params.get? name with
  | none => .error (.missingParam name)
  | some value =>
    match style with
    | .question => .ok (⟨['?'], [value]⟩, numbered)
    | .dollar =>
      let i := numbered.idxOf name
      let text := '$' :: (toString (i + 1)).toList
      if i < numbered.length then .ok (⟨text, []⟩, numbered)
      else .ok (⟨text, [value]⟩, numbered ++ [name])

/-- The name of a placeholder from its characters, the last first. -/
def nameOf (read : List Char) : String := String.ofList (':' :: read.reverse)

/-- A character that no quote, colon or name is waiting for. -/
def plainStep (numbered : List String) (c : Char) : Output × State :=
  if isQuote c then (⟨[c], []⟩, ⟨.quoted c, numbered⟩)
  else if c = ':' then ({}, ⟨.colon, numbered⟩)
  else (⟨[c], []⟩, ⟨.plain, numbered⟩)

/-- One character of the statement. -/
def step (params : Params) (style : PlaceholderStyle) (s : State) (c : Char) :
    Except Error (Output × State) :=
  match s.mode with
  | .plain => .ok (plainStep s.numbered c)
  | .quoted q => .ok (⟨[c], []⟩, if c = q then ⟨.plain, s.numbered⟩ else s)
  | .colon =>
    if c = ':' then .ok (⟨[':', ':'], []⟩, ⟨.plain, s.numbered⟩)
    else if isNameStart c then .ok ({}, ⟨.name [c], s.numbered⟩)
    else
      let (out, s) := plainStep s.numbered c
      .ok ({ out with text := ':' :: out.text }, s)
  | .name read =>
    if isNamePart c then .ok ({}, ⟨.name (c :: read), s.numbered⟩)
    else do
      let (marker, numbered) ← mark params style s.numbered (nameOf read)
      let (out, s) := plainStep numbered c
      .ok (⟨marker.text ++ out.text, marker.values ++ out.values⟩, s)

/-- What the end of the statement adds. -/
def finish (params : Params) (style : PlaceholderStyle) (s : State) : Except Error Output :=
  match s.mode with
  | .plain | .quoted _ => .ok {}
  | .colon => .ok ⟨[':'], []⟩
  | .name read => (mark params style s.numbered (nameOf read)).map (·.1)

/-- The text and the values that the rest of a statement adds. -/
def scan (params : Params) (style : PlaceholderStyle) (s : State) : List Char → Except Error Output
  | [] => finish params style s
  | c :: cs => do
    let (out, s) ← step params style s c
    let rest ← scan params style s cs
    .ok ⟨out.text ++ rest.text, out.values ++ rest.values⟩

end Positional

/-- A statement with named placeholders in the positional form of a style; an error
names the first placeholder without a value. -/
def Params.toPositional (params : Params) (sql : String) (style : PlaceholderStyle) :
    Except Error Positional :=
  (Positional.scan params style ⟨.plain, []⟩ sql.toList).map fun out =>
    ⟨String.ofList out.text, out.values⟩

end SqlCompose

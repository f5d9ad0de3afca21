import SqlCompose.Json.Token
/-!
# JSON as written

The tree of a JSON text before anything in it is interpreted: numbers as digits,
strings that may have no text, and objects with their members in the order of the
text, repetitions included. The tree is built from the tokens with a stack of the
containers that are open.
-/

namespace SqlCompose.Json

/-- A JSON text as a tree. -/
inductive Written
  | null
  | bool (b : Bool)
  | number (n : NumberText)
  | string (s : Option String)
  | array (items : List Written)
  | object (members : List (Option String × Written))

namespace Written

/-- An open container with what is complete in it, the last first. -/
inductive Frame
  | array (items : List Written)
  | object (members : List (Option String × Written)) (name : Option String)

/-- What may come next. -/
inductive Awaiting
  | value
  | valueOrEnd
  | name
  | nameOrEnd
  | colon
  | separator
  | nothing

/-- A tree under construction. -/
structure Builder where
  /-- The open containers, the innermost first. -/
  frames : List Frame
  awaiting : Awaiting
  /-- The whole tree, once it is complete. -/
  result : Option Written

namespace Builder

/-- Nothing read yet. -/
def empty : Builder := ⟨[], .value, none⟩

/-- A complete value put where one is awaited. -/
def place (frames : List Frame) (v : Written) : Builder :=
  match frames with
  | [] => ⟨[], .nothing, some v⟩
  | .array items :: rest => ⟨.array (v :: items) :: rest, .separator, none⟩
  | .object members name :: rest => ⟨.object ((name, v) :: members) name :: rest, .separator, none⟩

/-- The innermost container closed as an array. -/
def closeArray? : List Frame → Option Builder
  | .array items :: rest => some (place rest (.array items.reverse))
  | _ => none

/-- The innermost container closed as an object. -/
def closeObject? : List Frame → Option Builder
  | .object members _ :: rest => some (place rest (.object members.reverse))
  | _ => none

/-- A value or the start of a container where a value is awaited. -/
def value? (frames : List Frame) : Token → Option Builder
  | .null => some (place frames .null)
  | .bool b => some (place frames (.bool b))
  | .number n => some (place frames (.number n))
  | .string s => some (place frames (.string s))
  | .openArray => some ⟨.array [] :: frames, .valueOrEnd, none⟩
  | .openObject => some ⟨.object [] none :: frames, .nameOrEnd, none⟩
  | _ => none

/-- The name of a member. -/
def name? (frames : List Frame) : Token → Option Builder
  | .string s =>
    match frames with
    | .object members _ :: rest => some ⟨.object members s :: rest, .colon, none⟩
    | _ => none
  | _ => none

/-- One token. -/
def step? (b : Builder) (t : Token) : Option Builder :=
  match b.awaiting with
  | .value => value? b.frames t
  | .valueOrEnd =>
    match t with
    | .closeArray => closeArray? b.frames
    | _ => value? b.frames t
  | .name => name? b.frames t
  | .nameOrEnd =>
    match t with
    | .closeObject => closeObject? b.frames
    | _ => name? b.frames t
  | .colon =>
    match t with
    | .colon => some { b with awaiting := .value }
    | _ => none
  | .separator =>
    match t, b.frames with
    | .comma, .array _ :: _ => some { b with awaiting := .value }
    | .comma, .object _ _ :: _ => some { b with awaiting := .name }
    | .closeArray, frames => closeArray? frames
    | .closeObject, frames => closeObject? frames
    | _, _ => none
  | .nothing => none

end Builder

/-- The tree of a JSON text. -/
def read? (s : String) : Option Written := do
  let ts ← tokens? s
  let b ← ts.foldlM Builder.step? Builder.empty
  b.result

end Written

end SqlCompose.Json

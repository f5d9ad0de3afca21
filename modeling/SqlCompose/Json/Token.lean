import SqlCompose.Uuid
/-!
# JSON tokens

Splits JSON text into its tokens. The scan goes over the characters once, in a
`Token.Mode` that says what it stands in. A string is decoded on the way; where its
escapes leave half of a surrogate pair alone it has no text, which only a reader that
needs the text has to refuse.
-/

namespace SqlCompose.Json

/-- A JSON number as written: sign, digits before and behind the point, exponent. -/
structure NumberText where
  /-- Whether it starts with a minus. -/
  negative : Bool
  /-- The digits before the point. -/
  whole : List Char
  /-- The digits behind the point, if there is one. -/
  fraction : Option (List Char)
  /-- The exponent, if there is one: whether it is negative, and its digits. -/
  exponent : Option (Bool × List Char)

/-- A JSON token. -/
inductive Token
  | openArray | closeArray | openObject | closeObject | comma | colon
  | null
  | bool (b : Bool)
  | number (n : NumberText)
  /-- A string, with its text unless it has half a surrogate pair. -/
  | string (s : Option String)

namespace Token

/-- The digits behind the mark of an exponent, with their sign. -/
def readExponent? (cs : List Char) : Option (Bool × List Char) :=
  let (neg, ds) :=
    match cs with
    | '-' :: rest => (true, rest)
    | '+' :: rest => (false, rest)
    | _ => (false, cs)
  if ds.isEmpty || !ds.all Char.isDigit then none else some (neg, ds)

/-- The parts of a number: digits without a needless zero in front, then perhaps a
point with digits, then perhaps an exponent. -/
def readNumber? (cs : List Char) : Option NumberText := do
  let (negative, cs) :=
    match cs with
    | '-' :: rest => (true, rest)
    | _ => (false, cs)
  let whole := cs.takeWhile Char.isDigit
  let cs := cs.dropWhile Char.isDigit
  if whole.isEmpty || (whole.head? == some '0' && whole.length != 1) then none
  else
    let (fraction, cs) :=
      match cs with
      | '.' :: rest => (some (rest.takeWhile Char.isDigit), rest.dropWhile Char.isDigit)
      | _ => (none, cs)
    if fraction == some [] then none
    else
      match cs with
      | [] => some ⟨negative, whole, fraction, none⟩
      | c :: rest =>
        if c = 'e' ∨ c = 'E' then
          (readExponent? rest).map fun e => ⟨negative, whole, fraction, some e⟩
        else none

/-- The token of a word of letters. -/
def ofWord? (word : List Char) : Option Token :=
  if word = "null".toList then some .null
  else if word = "true".toList then some (.bool true)
  else if word = "false".toList then some (.bool false)
  else none

/-- The characters of code points in which a pair of surrogates stands for one
character; nothing if a surrogate is left over. -/
def joinSurrogates? : List Nat → Option (List Char)
  | [] => some []
  | n :: rest =>
    if 0xD800 ≤ n ∧ n < 0xDC00 then
      match rest with
      | l :: rest₂ =>
        if 0xDC00 ≤ l ∧ l < 0xE000 then
          let c := Char.ofNat (0x10000 + (n - 0xD800) * 0x400 + (l - 0xDC00))
          (joinSurrogates? rest₂).map (c :: ·)
        else none
      | [] => none
    else if 0xDC00 ≤ n ∧ n < 0xE000 then none
    else (joinSurrogates? rest).map (Char.ofNat n :: ·)

/-- The character that a backslash and this letter stand for. -/
def simpleEscape? (c : Char) : Option Nat :=
  if c = '\x22' ∨ c = '\\' ∨ c = '/' then some c.toNat
  else if c = 'b' then some 8
  else if c = 'f' then some 12
  else if c = 'n' then some 10
  else if c = 'r' then some 13
  else if c = 't' then some 9
  else none

/-- What the scan stands in. What has been read of a token is held last character
first. -/
inductive Mode
  | between
  | word (read : List Char)
  | number (read : List Char)
  | string (read : List Nat)
  /-- Behind a backslash. -/
  | escape (read : List Nat)
  /-- Within `\u`, with the digits still missing and the number read so far. -/
  | hex (read : List Nat) (missing : Nat) (value : Nat)

/-- The start of a token, or a token of one character, or a blank. -/
def start? (c : Char) : Option (List Token × Mode) :=
  if c = ' ' ∨ c = '\n' ∨ c = '\t' ∨ c = '\r' then some ([], .between)
  else if c = '[' then some ([.openArray], .between)
  else if c = ']' then some ([.closeArray], .between)
  else if c = '\x7b' then some ([.openObject], .between)
  else if c = '\x7d' then some ([.closeObject], .between)
  else if c = ',' then some ([.comma], .between)
  else if c = ':' then some ([.colon], .between)
  else if c = '\x22' then some ([], .string [])
  else if c.isDigit ∨ c = '-' then some ([], .number [c])
  else if c.isAlpha then some ([], .word [c])
  else none

/-- Whether a character can go on in a number. -/
def inNumber (c : Char) : Bool :=
  c.isDigit || c == '+' || c == '-' || c == '.' || c == 'e' || c == 'E'

/-- One character: the tokens that it completes, and where the scan stands then. -/
def step? (mode : Mode) (c : Char) : Option (List Token × Mode) :=
  match mode with
  | .between => start? c
  | .word read =>
    if c.isAlpha then some ([], .word (c :: read))
    else do
      let t ← ofWord? read.reverse
      let (ts, next) ← start? c
      some (t :: ts, next)
  | .number read =>
    if inNumber c then some ([], .number (c :: read))
    else do
      let n ← readNumber? read.reverse
      let (ts, next) ← start? c
      some (.number n :: ts, next)
  | .string read =>
    if c = '\x22' then
      some ([.string ((joinSurrogates? read.reverse).map String.ofList)], .between)
    else if c = '\\' then some ([], .escape read)
    else if c.toNat < 0x20 then none
    else some ([], .string (c.toNat :: read))
  | .escape read =>
    if c = 'u' then some ([], .hex read 4 0)
    else (simpleEscape? c).map fun n => ([], .string (n :: read))
  | .hex read missing value => do
    let digit ← hexValue? c
    let value := 16 * value + digit
    if missing ≤ 1 then some ([], .string (value :: read))
    else some ([], .hex read (missing - 1) value)

/-- The tokens that the end of the text completes. -/
def finish? : Mode → Option (List Token)
  | .between => some []
  | .word read => (ofWord? read.reverse).map ([·])
  | .number read => (readNumber? read.reverse).map fun n => [.number n]
  | _ => none

/-- The tokens of a text from a mode on. -/
def scan? (mode : Mode) : List Char → Option (List Token)
  | [] => finish? mode
  | c :: cs => do
    let (ts, next) ← step? mode c
    let rest ← scan? next cs
    some (ts ++ rest)

end Token

/-- The tokens of JSON text. -/
def tokens? (s : String) : Option (List Token) :=
  Token.scan? .between s.toList

end SqlCompose.Json

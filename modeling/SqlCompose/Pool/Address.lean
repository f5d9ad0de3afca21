import SqlCompose.Number.Read
import SqlCompose.Text.Basic
import SqlCompose.Uuid
/-!
# Network addresses

The forms of numeric addresses: four decimal numbers with points between them, and
eight hexadecimal numbers with colons between them, of which `::` leaves out a run of
zeros and the last two may be written in the first form.
-/

namespace SqlCompose.Address

/-- Whether a text is one of the numbers of a four-part address: at most 255, without
leading zeros. -/
def isOctet (cs : List Char) : Bool :=
  !cs.isEmpty && cs.length ≤ 3 && cs.all Char.isDigit && digitsValue cs ≤ 255 &&
    (cs.length == 1 || cs.head? != some '0')

/-- Whether a text is a four-part address. -/
def isFourPart (cs : List Char) : Bool :=
  let parts := Text.splitChars '.' cs
  parts.length == 4 && parts.all isOctet

/-- Whether a text is one of the numbers of an eight-part address. -/
def isGroup (cs : List Char) : Bool :=
  !cs.isEmpty && cs.length ≤ 4 && cs.all fun c => (hexValue? c).isSome

/-- How many of eight numbers the parts of a text are, if they are numbers; the last
one may be a four-part address where `mixed` says so. -/
def groupCount? (mixed : Bool) : List (List Char) → Option Nat
  | [] => some 0
  | [part] =>
    if isGroup part then some 1 else if mixed && isFourPart part then some 2 else none
  | part :: rest => if isGroup part then (groupCount? mixed rest).map (· + 1) else none

/-- The numbers on one side of `::`; there may be none. -/
def sideCount? (mixed : Bool) (cs : List Char) : Option Nat :=
  if cs.isEmpty then some 0 else groupCount? mixed (Text.splitChars ':' cs)

/-- A text cut at the first `::`. -/
def cut? : List Char → Option (List Char × List Char)
  | ':' :: ':' :: rest => some ([], rest)
  | c :: rest => (cut? rest).map fun r => (c :: r.1, r.2)
  | [] => none

/-- Whether a text is an eight-part address. -/
def isEightPart (cs : List Char) : Bool :=
  match cut? cs with
  | none => groupCount? true (Text.splitChars ':' cs) == some 8
  | some (before, after) =>
    match sideCount? false before, sideCount? true after with
    | some m, some n => m + n ≤ 7
    | _, _ => false

/-- Whether a text is a numeric address. -/
def isNumeric (s : String) : Bool := isFourPart s.toList || isEightPart s.toList

end SqlCompose.Address

import SqlCompose.Text.Blank
/-!
# Lists of names

Texts such as `id, COUNT(*) AS n, CONCAT(a, ',', b)` list names and expressions. Only
the commas outside parentheses and quotes separate entries; the blanks around an entry
do not belong to it, and an entry of nothing but blanks is none.
-/

namespace SqlCompose.Names

/-- Where a scan stands: how many parentheses are open, and within which quotes. -/
structure Scan where
  depth : Nat := 0
  quote : Option Char := none

/-- The scan behind one more character. -/
def Scan.step (s : Scan) (c : Char) : Scan :=
  match s.quote with
  | some q => if c = q then { s with quote := none } else s
  | none =>
    if c = '\x27' ∨ c = '\x22' ∨ c = '\x60' then { s with quote := some c }
    else if c = '(' then { s with depth := s.depth + 1 }
    else if c = ')' then { s with depth := s.depth - 1 }
    else s

/-- Whether the scan stands outside all parentheses and quotes. -/
def Scan.atTop (s : Scan) : Bool := s.depth == 0 && s.quote.isNone

/-- The texts between the commas that stand outside parentheses and quotes. -/
def pieces (s : Scan) : List Char → List (List Char)
  | [] => [[]]
  | c :: cs =>
    if c = ',' ∧ s.atTop then [] :: pieces s cs
    else
      match pieces (s.step c) cs with
      | [] => [[c]]
      | piece :: rest => (c :: piece) :: rest

/-- The entries of a list. -/
def split (text : String) : List String :=
  (((pieces {} text.toList).map Text.trimChars).filter (!·.isEmpty)).map String.ofList

end SqlCompose.Names

/-!
# Small text operations

Membership of a character, the search for a text inside another, splitting at a
character and joining with a separator, all on texts as sequences of characters.
-/

namespace SqlCompose.Text

/-- Whether the character occurs in the text. -/
def has (c : Char) (s : String) : Bool :=
  s.toList.contains c

/-- Whether the characters `part` occur in a row somewhere in `cs`. -/
def occursIn (part : List Char) : List Char → Bool
  | [] => part.isEmpty
  | c :: cs => part.isPrefixOf (c :: cs) || occursIn part cs

/-- Whether `part` occurs in the text. -/
def contains (part s : String) : Bool :=
  occursIn part.toList s.toList

/-- The pieces of a character sequence between the occurrences of `sep`; there is
always one piece more than there are separators. -/
def splitChars (sep : Char) : List Char → List (List Char)
  | [] => [[]]
  | c :: cs =>
    if c = sep then [] :: splitChars sep cs
    else
      match splitChars sep cs with
      | [] => [[c]]
      | piece :: rest => (c :: piece) :: rest

/-- The pieces of a text between the occurrences of `sep`. -/
def split (sep : Char) (s : String) : List String :=
  (splitChars sep s.toList).map String.ofList

/-- A text cut at the last occurrence of `sep`, which belongs to neither half. -/
def splitLast? (sep : Char) (s : String) : Option (String × String) :=
  let cs := s.toList
  let tail := (cs.reverse.takeWhile (· ≠ sep)).reverse
  if cs.contains sep then
    some (String.ofList (cs.take (cs.length - tail.length - 1)), String.ofList tail)
  else none

/-- Texts written one after the other with `sep` between neighbours. -/
def join (sep : String) : List String → String
  | [] => ""
  | [s] => s
  | s :: rest => s ++ sep ++ join sep rest

/-- What remains of `cs` after the leading characters `lead`, if it starts with them. -/
def dropLead? (lead cs : List Char) : Option (List Char) :=
  if lead.isPrefixOf cs then some (cs.drop lead.length) else none

theorem splitChars_ne_nil (sep : Char) (cs : List Char) : splitChars sep cs ≠ [] := by
  induction cs with
  | nil => simp [splitChars]
  | cons c cs ih =>
    unfold splitChars
    split
    · simp
    · split <;> simp

end SqlCompose.Text

/-!
# Escaping of patterns

How a value becomes a pattern that matches the texts containing it. The characters
with a meaning in patterns are replaced, all at once and from the left, the longest
key winning where several fit, so that replaced text is never replaced again.
-/

namespace SqlCompose

/-- How values are escaped before they are bound as patterns. -/
inductive LikeEscape
  /-- Percent sign, underscore and backslash are escaped with a backslash. -/
  | standard
  /-- Every key of the list is replaced by its text. -/
  | custom (pairs : List (String × String))
  /-- Values are patterns already. -/
  | verbatim
deriving DecidableEq

namespace LikeEscape

/-- Whether values are taken as patterns: always so if there is nothing to replace. -/
def isRaw : LikeEscape → Bool
  | standard => false
  | custom pairs => pairs.all fun p => p.1.isEmpty
  | verbatim => true

/-- Whether values are put between percent signs. -/
def wraps (e : LikeEscape) : Bool := !e.isRaw

/-- The keys and their replacements, the empty key left out. -/
def pairs : LikeEscape → List (List Char × List Char)
  | standard => [(['%'], ['\\', '%']), (['_'], ['\\', '_']), (['\\'], ['\\', '\\'])]
  | custom pairs =>
    (pairs.filter fun p => !p.1.isEmpty).map fun p => (p.1.toList, p.2.toList)
  | verbatim => []

/-- The longest key in front of a text, the last of equal ones. -/
def longest? (pairs : List (List Char × List Char)) (cs : List Char) :
    Option (List Char × List Char) :=
  (pairs.filter fun p => p.1.isPrefixOf cs).foldl
    (fun best p =>
      match best with
      | some b => if b.1.length ≤ p.1.length then some p else some b
      | none => some p)
    none

/-- Replaces the keys in a text of which the first `skip` characters belong to a key
that has been replaced. -/
def replaceFrom (pairs : List (List Char × List Char)) : Nat → List Char → List Char
  | _, [] => []
  | skip + 1, _ :: cs => replaceFrom pairs skip cs
  | 0, c :: cs =>
    match longest? pairs (c :: cs) with
    | some (key, text) => text ++ replaceFrom pairs (key.length - 1) cs
    | none => c :: replaceFrom pairs 0 cs

/-- A value with its keys replaced. -/
def apply (e : LikeEscape) (value : String) : String :=
  if e.isRaw then value else String.ofList (replaceFrom e.pairs 0 value.toList)

end LikeEscape

end SqlCompose

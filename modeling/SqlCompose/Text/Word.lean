import SqlCompose.Text.WordRanges
/-!
# Word characters

The characters that names, aliases and type tokens are made of: letters, marks,
decimal digits, connector punctuation such as the underscore, and the two joiners.
-/

namespace SqlCompose.Text

/-- Whether a character is a letter, mark, decimal digit, connector or joiner. -/
def isWord (c : Char) : Bool :=
  let n := c.toNat
  if n < 0x80 then c.isAlphanum || c == '_'
  else wordRanges.any fun r => r.1 ≤ n && n ≤ r.2

end SqlCompose.Text

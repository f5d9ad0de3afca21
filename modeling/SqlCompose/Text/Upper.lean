import SqlCompose.Text.UpperTable
/-!
# Upper case

Upper-casing of a text by Unicode's rules, character by character. One character
may turn into several: `ß` becomes `SS`.
-/

namespace SqlCompose.Text

/-- The upper-case form of one character. -/
def upperChar (c : Char) : List Char :=
  let n := c.toNat
  if n < 0x80 then [c.toUpper]
  else
    match upperExpansions.find? (fun e => e.1 == n) with
    | some e => e.2.map Char.ofNat
    | none =>
      match upperRuns.find? (fun r => r.1 ≤ n && n ≤ r.2.1 && (n - r.1) % r.2.2.1 == 0) with
      | some r => [Char.ofNat (n + r.2.2.2).toNat]
      | none => [c]

/-- The upper-case form of a text. -/
def upper (s : String) : String :=
  String.ofList (s.toList.flatMap upperChar)

end SqlCompose.Text

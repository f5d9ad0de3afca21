/-!
# UTF-8

Texts from bytes: strictly, refusing bytes that are not UTF-8, and leniently, with a
replacement character for every maximal piece that starts like a character and breaks
off.

A text that is too long for a number of bytes is cut between two of its characters
(`Text.within`): the cut goes back from the number of bytes to the last position that is
no byte inside a character (`Text.lastBoundary`).
-/

namespace SqlCompose.Text

/-- The bytes of a text. -/
def toUtf8 (s : String) : List UInt8 :=
  s.toUTF8.toList

/-- The text that bytes encode, if they do. -/
def ofUtf8? (bytes : List UInt8) : Option String :=
  String.fromUTF8? ⟨bytes.toArray⟩

/-- The last position between characters at or in front of a byte. The start of a text is
one always. -/
def lastBoundary (s : String) : Nat → s.Pos
  | 0 => s.startPos
  | n + 1 =>
    if h : (String.Pos.Raw.mk (n + 1)).IsValid s then s.pos ⟨n + 1⟩ h else lastBoundary s n

/-- A text, cut to a number of bytes. -/
def within (room : Nat) (s : String) : String :=
  if s.utf8ByteSize ≤ room then s else (s.sliceTo (lastBoundary s room)).copy

/-- What stands for bytes that are no character. -/
def replacement : Char := '\uFFFD'

/-- Whether a byte continues a character. -/
def isTail (b : UInt8) : Bool := 0x80 ≤ b && b ≤ 0xBF

/-- Whether `b` may follow `a`, the first byte of a character of three bytes. -/
def opensThree (a b : UInt8) : Bool :=
  (a == 0xE0 && 0xA0 ≤ b && b ≤ 0xBF) || (0xE1 ≤ a && a ≤ 0xEC && isTail b) ||
    (a == 0xED && 0x80 ≤ b && b ≤ 0x9F) || (0xEE ≤ a && a ≤ 0xEF && isTail b)

/-- Whether `b` may follow `a`, the first byte of a character of four bytes. -/
def opensFour (a b : UInt8) : Bool :=
  (a == 0xF0 && 0x90 ≤ b && b ≤ 0xBF) || (0xF1 ≤ a && a ≤ 0xF3 && isTail b) ||
    (a == 0xF4 && 0x80 ≤ b && b ≤ 0x8F)

/-- A character from the payload bits of its bytes. -/
def charOfBytes (lead : Nat) (tails : List UInt8) : Char :=
  Char.ofNat (tails.foldl (fun n b => n * 64 + b.toNat % 64) lead)

/-- The characters of bytes, with a replacement for what is not UTF-8. -/
def decodeLossy : List UInt8 → List Char
  | [] => []
  | a :: rest =>
    if a < 0x80 then Char.ofNat a.toNat :: decodeLossy rest
    else
      match rest with
      | [] => [replacement]
      | b :: rest₂ =>
        if 0xC2 ≤ a && a ≤ 0xDF && isTail b then
          charOfBytes (a.toNat % 32) [b] :: decodeLossy rest₂
        else if opensThree a b then
          match rest₂ with
          | [] => [replacement]
          | c :: rest₃ =>
            if isTail c then charOfBytes (a.toNat % 16) [b, c] :: decodeLossy rest₃
            else replacement :: decodeLossy (c :: rest₃)
        else if opensFour a b then
          match rest₂ with
          | [] => [replacement]
          | c :: rest₃ =>
            if isTail c then
              match rest₃ with
              | [] => [replacement]
              | d :: rest₄ =>
                if isTail d then charOfBytes (a.toNat % 8) [b, c, d] :: decodeLossy rest₄
                else replacement :: decodeLossy (d :: rest₄)
            else replacement :: decodeLossy (c :: rest₃)
        else replacement :: decodeLossy (b :: rest₂)

/-- The text of bytes, with a replacement for what is not UTF-8. -/
def ofUtf8Lossy (bytes : List UInt8) : String :=
  String.ofList (decodeLossy bytes)

end SqlCompose.Text

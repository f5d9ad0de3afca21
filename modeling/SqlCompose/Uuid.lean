import SqlCompose.Number.BigEndian
import SqlCompose.Number.Read
/-!
# Universally unique identifiers

A UUID is 128 bits. It is written as 32 hexadecimal digits in groups of 8, 4, 4, 4 and
12 with hyphens between them, and read with or without the hyphens, in braces, or
behind `urn:uuid:` in either case.
-/

namespace SqlCompose

/-- A universally unique identifier. -/
structure Uuid where
  /-- The bits, the first group in front. -/
  bits : BitVec 128
deriving DecidableEq

/-- The value of a hexadecimal digit of either case. -/
def hexValue? (c : Char) : Option Nat :=
  if c.isDigit then some (c.toNat - '0'.toNat)
  else if 'a' ≤ c ∧ c ≤ 'f' then some (c.toNat - 'a'.toNat + 10)
  else if 'A' ≤ c ∧ c ≤ 'F' then some (c.toNat - 'A'.toNat + 10)
  else none

/-- The number that hexadecimal digits spell. -/
def hexNumber? (cs : List Char) : Option Nat :=
  cs.foldlM (fun n c => (hexValue? c).map (16 * n + ·)) 0

/-- A number in hexadecimal, with zeros in front up to a width. -/
def writeHex (width n : Nat) : List Char :=
  let ds := Nat.toDigits 16 n
  List.replicate (width - ds.length) '0' ++ ds

namespace Uuid

/-- The hyphenated form. -/
def write (u : Uuid) : String :=
  let ds := writeHex 32 u.bits.toNat
  String.ofList (ds.take 8 ++ '-' :: (ds.drop 8).take 4 ++ '-' :: (ds.drop 12).take 4 ++
    '-' :: (ds.drop 16).take 4 ++ '-' :: ds.drop 20)

/-- The identifier of 32 hexadecimal digits. -/
def ofDigits? (cs : List Char) : Option Uuid :=
  if cs.length = 32 then (hexNumber? cs).map fun n => ⟨BitVec.ofNat 128 n⟩ else none

/-- The identifier in hyphenated form. -/
def readHyphenated? (cs : List Char) : Option Uuid :=
  let hyphenAt (i : Nat) : Bool := cs[i]? == some '-'
  if cs.length = 36 && hyphenAt 8 && hyphenAt 13 && hyphenAt 18 && hyphenAt 23 then
    ofDigits? (cs.take 8 ++ (cs.drop 9).take 4 ++ (cs.drop 14).take 4 ++
      (cs.drop 19).take 4 ++ cs.drop 24)
  else none

/-- The identifier that a text spells in any of its forms. -/
def read? (cs : List Char) : Option Uuid :=
  if cs.length = 32 then ofDigits? cs
  else if cs.length = 38 && cs.head? == some '\x7b' && cs.getLast? == some '\x7d' then
    readHyphenated? ((cs.drop 1).take 36)
  else if cs.length = 45 && (cs.take 9).map Char.toLower == "urn:uuid:".toList then
    readHyphenated? (cs.drop 9)
  else readHyphenated? cs

/-- The sixteen bytes, the first group in front. -/
def toBytes (u : Uuid) : List UInt8 :=
  bigEndian 16 u.bits.toNat

/-- The identifier of sixteen bytes. -/
def ofBytes? (bytes : List UInt8) : Option Uuid :=
  if bytes.length = 16 then
    some ⟨BitVec.ofNat 128 (ofBigEndian bytes)⟩
  else none

end Uuid

end SqlCompose

import SqlCompose.Number.Shortest
/-!
# Texts of floating-point numbers

How a double-precision number is written. A `FloatStyle` collects the choices of a
format; `FloatStyle.plain` is the form in which a value is shown, without exponent
whatever the size, and `FloatStyle.json` the form in which it stands in JSON text.
Both write the shortest digits that read back.
-/

namespace SqlCompose

/-- The choices that a format makes when it writes a number. -/
structure FloatStyle where
  /-- Which of two equally close decimals is written. -/
  tie : Tie
  /-- The powers of ten of the leading digit for which no exponent is written, as an
  inclusive range; always, if there is none. -/
  positional : Option (Int × Int)
  /-- Whether a number without fractional digits is written with `.0`. -/
  pointZero : Bool

namespace FloatStyle

/-- The shown form: never an exponent, and no point in a whole number. -/
def plain : FloatStyle := ⟨.up, none, false⟩

/-- The JSON form: an exponent below 10⁻⁵ and from 10¹⁶ on, and `.0` in a whole number. -/
def json : FloatStyle := ⟨.even, some (-5, 15), true⟩

/-- A decimal without exponent. -/
def writePositional (style : FloatStyle) (d : DecimalDigits) : String :=
  let ds := (Nat.toDigits 10 d.digits)
  if 0 ≤ d.exponent then
    String.ofList (ds ++ List.replicate d.exponent.toNat '0') ++
      if style.pointZero then ".0" else ""
  else
    let places := (-d.exponent).toNat
    let padded := List.replicate (places + 1 - ds.length) '0' ++ ds
    let whole := padded.take (padded.length - places)
    let fraction := padded.drop (padded.length - places)
    String.ofList (whole ++ '.' :: fraction)

/-- A decimal as one leading digit, the others behind a point, and an exponent with
its sign. -/
def writeScientific (d : DecimalDigits) : String :=
  let ds := Nat.toDigits 10 d.digits
  let e : Int := d.exponent + (ds.length - 1 : Nat)
  let mantissa :=
    match ds with
    | [] => "0"
    | [c] => String.ofList [c]
    | c :: rest => String.ofList (c :: '.' :: rest)
  mantissa ++ "e" ++ (if 0 ≤ e then "+" else "-") ++ toString e.natAbs

/-- The text of a finite number. -/
def writeFinite (style : FloatStyle) (x : Binary64) : String :=
  let sign := if x.negative then "-" else ""
  if x.pattern = 0 then sign ++ if style.pointZero then "0.0" else "0"
  else
    let d := x.shortest style.tie
    let lead : Int := d.exponent + ((Nat.toDigits 10 d.digits).length - 1 : Nat)
    let positional :=
      match style.positional with
      | none => true
      | some (low, high) => low ≤ lead && lead ≤ high
    sign ++ if positional then style.writePositional d else writeScientific d

/-- The text of any number; the infinities and not-a-number have names. -/
def write (style : FloatStyle) (x : Binary64) : String :=
  if x.isNaN then "NaN"
  else if x.isInfinite then (if x.negative then "-inf" else "inf")
  else style.writeFinite x

end FloatStyle

end SqlCompose

import EventFormation.Decimal.Shortest

namespace EventFormation

/-- How a double is written. `positional` bounds the place of the decimal point, counted from
the first digit, between which no exponent is used. `whole` follows a number without fraction,
`plus` is the sign of an exponent that is not negative. -/
structure NumeralStyle where
  positional : Option (Int × Int)
  whole : String
  plus : String
  tie : Decimal.Tie

namespace NumeralStyle

/-- Data fields never carry an exponent. -/
def field : NumeralStyle := ⟨none, "", "", .larger⟩

/-- Reports for people keep `.0` and turn to exponents below 0.0001 and from 10 ^ 16 on. -/
def report : NumeralStyle := ⟨some (-3, 16), ".0", "", .larger⟩

/-- JSON numbers keep `.0` and turn to signed exponents below 0.00001 and from 10 ^ 16 on. -/
def json : NumeralStyle := ⟨some (-4, 16), ".0", "+", .even⟩

def usesExponent (style : NumeralStyle) (point : Int) : Bool :=
  match style.positional with
  | none => false
  | some (lowest, highest) => point < lowest || highest < point

def positionalText (style : NumeralStyle) (digits : String) (point : Int) : String :=
  if point ≤ 0 then "0." ++ String.ofList (List.replicate (-point).toNat '0') ++ digits
  else if digits.length ≤ point.toNat then
    digits ++ String.ofList (List.replicate (point.toNat - digits.length) '0') ++ style.whole
  else
    let chars := digits.toList
    String.ofList (chars.take point.toNat) ++ "." ++ String.ofList (chars.drop point.toNat)

def exponentText (style : NumeralStyle) (digits : String) (point : Int) : String :=
  let sign := if point < 1 then "" else style.plus
  let exponent := "e" ++ sign ++ toString (point - 1)
  match digits.toList with
  | [] => exponent
  | [digit] => String.singleton digit ++ exponent
  | digit :: rest => String.singleton digit ++ "." ++ String.ofList rest ++ exponent

def magnitude (style : NumeralStyle) (x : BinaryFloat) : String :=
  if x.mantissa = 0 then "0" ++ style.whole
  else
    let decimal := Decimal.shortest style.tie x
    let digits := toString decimal.digits
    let point := digits.length + decimal.exponent
    if style.usesExponent point then style.exponentText digits point
    else style.positionalText digits point

/-- The text of a double: the shortest digits that read back. -/
def text (style : NumeralStyle) (x : Float) : String :=
  if x.isNaN then "NaN"
  else
    let sign := if x.toBits >>> 63 = 1 then "-" else ""
    sign ++ if x.isInf then "inf" else style.magnitude (BinaryFloat.ofFloat x)

end NumeralStyle

end EventFormation

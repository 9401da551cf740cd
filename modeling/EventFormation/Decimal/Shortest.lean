namespace EventFormation

/-- The number `digits * 10 ^ exponent`. -/
structure Decimal where
  digits : Nat
  exponent : Int
  deriving Repr, DecidableEq

/-- The number `mantissa * 2 ^ exponent`. `lowest` says that the next smaller double is only half
as far away as the next larger one. -/
structure BinaryFloat where
  mantissa : Nat
  exponent : Int
  lowest : Bool
  deriving Repr, DecidableEq

def BinaryFloat.fractions : Nat := 0x10000000000000

/-- The magnitude of a finite double. Eleven bits above the fraction hold its scale. -/
def BinaryFloat.ofFloat (x : Float) : BinaryFloat :=
  let bits := x.toBits.toNat
  let fraction := bits % fractions
  let scale := bits / fractions % 0x800
  if scale = 0 then ⟨fraction, -1074, false⟩
  else ⟨fraction + fractions, (scale : Int) - 1075, fraction == 0 && scale > 1⟩

namespace Decimal

/-- The magnitude of a double against the grid of multiples of `10 ^ exponent`: `value`, `low`
and `high`, divided by `unit`, are the double and the ends of the reals that round to it. -/
structure Grid where
  unit : Nat
  low : Nat
  value : Nat
  high : Nat
  closed : Bool

/-- A power of two times a power of ten, where a negative exponent counts as zero. -/
def scale (two ten : Int) : Nat := Nat.pow 2 two.toNat * Nat.pow 10 ten.toNat

def Grid.ofBinary (x : BinaryFloat) (exponent : Int) : Grid :=
  let quarter := x.exponent - 2
  let up := scale quarter (-exponent)
  { unit := scale (-quarter) exponent
    low := (4 * x.mantissa - if x.lowest then 1 else 2) * up
    value := 4 * x.mantissa * up
    high := (4 * x.mantissa + 2) * up
    closed := x.mantissa % 2 == 0 }

/-- Whether the multiple of the grid rounds to the double. -/
def Grid.readsBack (g : Grid) (multiple : Nat) : Bool :=
  let point := multiple * g.unit
  if g.closed then g.low ≤ point && point ≤ g.high else g.low < point && point < g.high

/-- Which of two equally near multiples is taken. -/
inductive Tie where
  | larger
  | even
  deriving Repr, DecidableEq

/-- Whether a double that lies `above` over one multiple and `below` under the next one goes to
the lower of them. -/
def Tie.goesDown (tie : Tie) (lower above below : Nat) : Bool :=
  above < below || (above == below && tie == .even && lower % 2 == 0)

/-- The multiple nearest to the double among its two neighbours that round to it. -/
def Grid.nearest? (g : Grid) (tie : Tie) : Option Nat :=
  let below := g.value / g.unit
  let above := below + 1
  match g.readsBack below && below != 0, g.readsBack above with
  | false, false => none
  | true, false => some below
  | false, true => some above
  | true, true =>
    if tie.goesDown below (g.value - below * g.unit) (above * g.unit - g.value) then some below
    else some above

def search (tie : Tie) (x : BinaryFloat) : Nat → Int → Decimal
  | 0, exponent => ⟨0, exponent⟩
  | fuel + 1, exponent =>
    match (Grid.ofBinary x exponent).nearest? tie with
    | some digits => ⟨digits, exponent⟩
    | none => search tie x fuel (exponent - 1)

/-- The decimal with the fewest digits that rounds to the double, and of those the nearest.
A grid above the double is tried first, and 17 digits always suffice. -/
def shortest (tie : Tie) (x : BinaryFloat) : Decimal :=
  if x.mantissa = 0 then ⟨0, 0⟩
  else search tie x 25 (((x.mantissa.log2 + x.exponent + 1) * 30103).fdiv 100000 + 2)

end Decimal

end EventFormation

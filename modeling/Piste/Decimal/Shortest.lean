import Piste.Decimal.Binary

/-!
# Shortest decimal text

The decimal with the fewest digits among those that read back as a given double. The decimals that
read back form an interval around the double; the coarsest power of ten with a multiple in it gives
the fewest digits. Of two such multiples the nearer is taken, of two equally near the greater.
-/

namespace Piste.Decimal

/-- The decimal `digits · 10 ^ place`. -/
structure Digits where
  digits : Nat
  place : Int
  deriving DecidableEq, Repr

/-- Halfway to the neighbours of `mantissa · 2 ^ exponent`, in quarters of its last place. The gap
below the least mantissa of an exponent is half as wide. -/
def lowerBound (mantissa : Nat) (exponent : Int) : Nat :=
  if mantissa = Binary.leadingBit ∧ Binary.leastExponent < exponent then 4 * mantissa - 1
  else 4 * mantissa - 2

/-- The multiple of `10 ^ place` that reads back as `mantissa · 2 ^ exponent` and is nearest
to it. -/
def multiple? (mantissa : Nat) (exponent place : Int) : Option Nat :=
  let quarter := exponent - 2
  let grid := Nat.pow 10 place.toNat <<< (-quarter).toNat
  let unit := Nat.pow 10 (-place).toNat <<< quarter.toNat
  let value := 4 * mantissa * unit
  let low := lowerBound mantissa exponent * unit
  let high := (4 * mantissa + 2) * unit
  let readsBack (d : Nat) : Bool :=
    if mantissa % 2 = 0 then low ≤ d * grid && d * grid ≤ high
    else low < d * grid && d * grid < high
  let below := value / grid
  let above := below + 1
  match readsBack below, readsBack above with
  | true, true => if above * grid - value ≤ value - below * grid then some above else some below
  | true, false => some below
  | false, true => some above
  | false, false => none

/-- The places that a decimal of a double can end in, from the coarsest. -/
def places : List Int :=
  (List.range 634).map fun i : Nat => 309 - (i : Int)

/-- The shortest decimal that reads back as `mantissa · 2 ^ exponent`. -/
def shortest (mantissa : Nat) (exponent : Int) : Digits :=
  (places.findSome? fun place =>
    (multiple? mantissa exponent place).map fun d => ⟨d, place⟩).getD ⟨0, 0⟩

/-- As many noughts as `count` says. -/
def noughts (count : Nat) : List Char :=
  List.replicate count '0'

/-- All digits before and after the point, without an exponent. -/
def Digits.positional (d : Digits) : String :=
  let text := d.digits.repr.toList
  if 0 ≤ d.place then String.ofList (text ++ noughts d.place.toNat)
  else
    let fraction := (-d.place).toNat
    let padded := noughts (fraction + 1 - text.length) ++ text
    let whole := padded.length - fraction
    String.ofList (padded.take whole ++ '.' :: padded.drop whole)

/-- The text of a double: its shortest decimal in positional notation, a whole number without a
point. The sign of a negative zero is kept. -/
def floatText (x : Float) : String :=
  match Binary.ofFloat x with
  | .nan => "NaN"
  | .infinite negative => if negative then "-inf" else "inf"
  | .finite negative mantissa exponent =>
    let text := if mantissa = 0 then "0" else (shortest mantissa exponent).positional
    if negative then "-" ++ text else text

end Piste.Decimal

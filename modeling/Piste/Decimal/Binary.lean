/-!
# Binary floating-point numbers

A double as the number it stands for, `± mantissa · 2 ^ exponent`, and its rounding to a whole
number.
-/

namespace Piste.Decimal

/-- What a double stands for. A finite one is `± mantissa · 2 ^ exponent`. -/
inductive Binary where
  | nan
  | infinite (negative : Bool)
  | finite (negative : Bool) (mantissa : Nat) (exponent : Int)
  deriving DecidableEq, Repr

namespace Binary

/-- The least exponent, that of the numbers next to zero. -/
def leastExponent : Int := -1074

/-- The bit in front of the fraction field, which is not stored. -/
def leadingBit : Nat := 1 <<< 52

/-- Reads sign, exponent field and fraction field off the bits. -/
def ofFloat (x : Float) : Binary :=
  let bits := x.toBits.toNat
  let negative := 1 <<< 63 ≤ bits
  let field := (bits >>> 52) % 2048
  let fraction := bits % leadingBit
  if field = 2047 then
    if fraction = 0 then infinite negative else nan
  else if field = 0 then finite negative fraction leastExponent
  else finite negative (leadingBit + fraction) (leastExponent + (field - 1 : Nat))

end Binary

/-- The quotient rounded to the nearest whole number, a half to the even neighbour. -/
def roundDivEven (num den : Nat) : Nat :=
  let quotient := num / den
  let twice := 2 * (num % den)
  if twice < den then quotient
  else if den < twice then quotient + 1
  else quotient + quotient % 2

/-- The whole number nearest to `mantissa · 2 ^ exponent`, of two the even one. -/
def roundScaled (mantissa : Nat) (exponent : Int) : Nat :=
  if 0 ≤ exponent then mantissa <<< exponent.toNat
  else roundDivEven mantissa (1 <<< (-exponent).toNat)

/-- Least number of 64 signed bits. -/
def leastInt64 : Int := -0x8000000000000000

/-- Greatest number of 64 signed bits. -/
def greatestInt64 : Int := 0x7FFFFFFFFFFFFFFF

/-- The nearest number of 64 signed bits. -/
def saturate (n : Int) : Int :=
  max leastInt64 (min n greatestInt64)

theorem leastInt64_le_saturate (n : Int) : leastInt64 ≤ saturate n := by
  unfold saturate; omega

theorem saturate_le_greatestInt64 (n : Int) : saturate n ≤ greatestInt64 := by
  unfold saturate leastInt64 greatestInt64; omega

/-- A double rounded to a whole number of 64 signed bits: a half goes to the even neighbour, what is
out of range to the nearest limit, and what is no number to zero. -/
def Binary.toInt64 : Binary → Int
  | nan => 0
  | infinite negative => if negative then leastInt64 else greatestInt64
  | finite negative mantissa exponent =>
    let rounded : Int := roundScaled mantissa exponent
    saturate (if negative then -rounded else rounded)

theorem Binary.leastInt64_le_toInt64 (b : Binary) : leastInt64 ≤ b.toInt64 := by
  cases b with
  | nan => decide
  | infinite negative => cases negative <;> decide
  | finite => exact leastInt64_le_saturate _

theorem Binary.toInt64_le_greatestInt64 (b : Binary) : b.toInt64 ≤ greatestInt64 := by
  cases b with
  | nan => decide
  | infinite negative => cases negative <;> decide
  | finite => exact saturate_le_greatestInt64 _

end Piste.Decimal

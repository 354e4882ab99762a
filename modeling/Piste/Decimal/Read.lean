/-!
# Decimal literals

Reading of a decimal literal: a sign, digits with at most one point among them, and an exponent.
-/

namespace Piste.Decimal

/-- The number written by decimal digits, which go on from `value`. -/
def digitsValue (value : Nat) (digits : List Char) : Nat :=
  digits.foldl (fun n c => n * 10 + (c.toNat - '0'.toNat)) value

/-- The number that digits write. -/
def readNatural? (digits : List Char) : Option Nat :=
  if digits.isEmpty || !digits.all Char.isDigit then none else some (digitsValue 0 digits)

/-- The double nearest to `mantissa · 10 ^ exponent`. Beyond the range of doubles the exponent is
not worked out. -/
def scientific (mantissa : Nat) (exponent : Int) : Float :=
  let size : Int := mantissa.repr.length
  if mantissa = 0 then 0
  else if 400 < exponent + size then Float.ofScientific 1 false 400
  else if exponent + size < -400 then 0
  else if 0 ≤ exponent then Float.ofScientific mantissa false exponent.toNat
  else Float.ofScientific mantissa true (-exponent).toNat

/-- An exponent mark with a signed exponent, up to the end of the text. -/
def readExponent? : List Char → Option Int
  | [] => some 0
  | mark :: rest =>
    if mark = 'e' ∨ mark = 'E' then
      let (negative, digits) := match rest with
        | '-' :: digits => (true, digits)
        | '+' :: digits => (false, digits)
        | digits => (false, digits)
      if digits.isEmpty || !digits.all Char.isDigit then none
      else
        let value : Int := digitsValue 0 digits
        some (if negative then -value else value)
    else none

/-- The double nearest to an unsigned literal such as `12`, `1.5`, `.5`, `5.` or `1e-3`. -/
def readUnsigned? (text : List Char) : Option Float := do
  let whole := text.takeWhile Char.isDigit
  let rest := text.dropWhile Char.isDigit
  let (fraction, rest) := match rest with
    | '.' :: more => (more.takeWhile Char.isDigit, more.dropWhile Char.isDigit)
    | _ => ([], rest)
  if whole.isEmpty && fraction.isEmpty then none
  else
    let exponent ← readExponent? rest
    some (scientific (digitsValue 0 (whole ++ fraction)) (exponent - fraction.length))

/-- The double nearest to a literal with or without a sign. -/
def read? (text : List Char) : Option Float :=
  match text with
  | '-' :: rest => (readUnsigned? rest).map fun x => -x
  | '+' :: rest => readUnsigned? rest
  | _ => readUnsigned? text

end Piste.Decimal

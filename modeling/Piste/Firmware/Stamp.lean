/-!
# Stamps

Names that sort by time: 26 characters, which write a time of 48 bits and then a random number of 80
bits in base 32.
-/

namespace Piste.Firmware.Stamp

/-- The digits in base 32. Letters that read like others are left out. -/
def digits : List Char :=
  "0123456789ABCDEFGHJKMNPQRSTVWXYZ".toList

/-- The last `count` digits of a number, from the last on. -/
def lastDigits (n : Nat) : Nat → List Char
  | 0 => []
  | count + 1 => digits.getD (n % 32) '0' :: lastDigits (n / 32) count

/-- The stamp of a time in milliseconds and a random number. -/
def ofParts (milliseconds random : Nat) : String :=
  String.ofList
    (lastDigits (((milliseconds % (1 <<< 48)) <<< 80) + random % (1 <<< 80)) 26).reverse

theorem length_lastDigits (n count : Nat) : (lastDigits n count).length = count := by
  induction count generalizing n with
  | zero => rfl
  | succ count ih => simp [lastDigits, ih]

/-- Every stamp has 26 characters. -/
theorem length_ofParts (milliseconds random : Nat) :
    (ofParts milliseconds random).length = 26 := by
  simp [ofParts, length_lastDigits]

end Piste.Firmware.Stamp

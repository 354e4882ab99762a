import Mathlib.Tactic.IntervalCases
import Piste.Firmware.Certificate

/-!
# Reading string literals

`readLiteral` reads a string literal by the rules of C, one character after the other, and gives the
bytes that it denotes. A number after `\x` goes on for as long as there are digits, so what an
escape denotes depends on what follows it.

The main result is `readLiteral_byteLiteral`: the literal of a byte denotes this byte.
-/

namespace Piste.Firmware

/-- The value of a hexadecimal digit. -/
def hexValue? (c : Char) : Option Nat :=
  if '0' ≤ c ∧ c ≤ '9' then some (c.toNat - '0'.toNat)
  else if 'a' ≤ c ∧ c ≤ 'f' then some (c.toNat - 'a'.toNat + 10)
  else if 'A' ≤ c ∧ c ≤ 'F' then some (c.toNat - 'A'.toNat + 10)
  else none

/-- How far a literal has been read, and the bytes that it denotes so far. -/
inductive Reader where
  /-- Before the first quote. -/
  | outside
  /-- Between two characters. -/
  | inside (bytes : List UInt8)
  /-- After a backslash. -/
  | escape (bytes : List UInt8)
  /-- After `\x`, with the number that the digits make, if there is one yet. -/
  | hex (bytes : List UInt8) (number : Option Nat)
  /-- After the last quote. -/
  | closed (bytes : List UInt8)

namespace Reader

/-- A character that no escape is in the way of. It stands for itself, in UTF-8, unless it is a
quote or a backslash; a line does not end in a literal. -/
def plain (bytes : List UInt8) (c : Char) : Option Reader :=
  if c = '"' then some (closed bytes)
  else if c = '\\' then some (escape bytes)
  else if c = '\n' then none
  else some (inside (bytes ++ String.utf8EncodeChar c))

/-- One character of a literal. A number that does not fit in a byte is refused. -/
def step : Reader → Char → Option Reader
  | outside, c => if c = '"' then some (inside []) else none
  | inside bytes, c => plain bytes c
  | escape bytes, c =>
    if c = 'n' then some (inside (bytes ++ [10]))
    else if c = '"' ∨ c = '\\' then some (inside (bytes ++ String.utf8EncodeChar c))
    else if c = 'x' then some (hex bytes none)
    else none
  | hex bytes number, c =>
    match hexValue? c, number with
    | some digit, _ => some (hex bytes (some (16 * number.getD 0 + digit)))
    | none, some n => if n < 256 then plain (bytes ++ [UInt8.ofNat n]) c else none
    | none, none => none
  | closed _, _ => none

/-- The bytes of a literal that has been read to its end. -/
def bytes? : Reader → Option (List UInt8)
  | closed bytes => some bytes
  | _ => none

end Reader

/-- The bytes that a string literal denotes, or `none` if the text is not one literal. -/
def readLiteral (literal : List Char) : Option (List UInt8) :=
  (literal.foldlM Reader.step .outside).bind Reader.bytes?

/-! ## Digits -/

theorem hexValue?_hexDigit {n : Nat} (hn : n < 16) : hexValue? (hexDigit n) = some n := by
  interval_cases n <;> rfl

/-- No number goes on behind a quote. -/
theorem hexValue?_quote : hexValue? '"' = none := rfl

/-! ## The literal of a byte -/

theorem toNat_charOfNat {n : Nat} (hn : n ≤ 126) : (Char.ofNat n).toNat = n := by
  have hvalid : n.isValidChar := Or.inl (by omega)
  rw [Char.ofNat, dif_pos hvalid]
  rfl

/-- A printable character stands for itself. -/
theorem Reader.plain_ofNat {n : Nat} (bytes : List UInt8) (hn : 32 ≤ n ∧ n ≤ 126)
    (hquote : n ≠ '"'.toNat) (hbackslash : n ≠ '\\'.toNat) :
    plain bytes (Char.ofNat n) = some (inside (bytes ++ [UInt8.ofNat n])) := by
  have htoNat := toNat_charOfNat hn.2
  have hne : ∀ c : Char, n ≠ c.toNat → Char.ofNat n ≠ c := by
    rintro c h rfl
    exact h htoNat.symm
  have hsize : (Char.ofNat n).utf8Size = 1 := by
    rw [Char.utf8Size_eq_one_iff, UInt32.le_iff_toNat_le]
    show (Char.ofNat n).toNat ≤ 127
    omega
  have hbyte : (Char.ofNat n).val.toUInt8 = UInt8.ofNat n := by
    rw [← UInt8.ofNat_uInt32ToNat]
    exact congrArg UInt8.ofNat htoNat
  rw [plain, if_neg (hne _ hquote), if_neg (hne _ hbackslash),
    if_neg (hne _ fun h => absurd hn.1 (by rw [h]; decide)),
    String.utf8EncodeChar_eq_singleton hsize, hbyte]

/-- From the text of a byte to the quote after it, the reader finds this byte. -/
theorem Reader.foldlM_step_byteText (bytes : List UInt8) (byte : UInt8) :
    (byteText byte ++ ['"']).foldlM step (inside bytes) = some (closed (bytes ++ [byte])) := by
  unfold byteText
  by_cases hnewline : byte.toNat = 10
  · have hbyte : byte = 10 := UInt8.toNat_inj.1 hnewline
    rw [hbyte]
    rfl
  simp only [hnewline, if_false]
  split
  · rename_i hprintable
    obtain ⟨hlow, hhigh, hquote, hbackslash⟩ := hprintable
    simp only [List.cons_append, List.nil_append, List.foldlM_cons, List.foldlM_nil, step,
      plain_ofNat bytes ⟨hlow, hhigh⟩ hquote hbackslash, UInt8.ofNat_toNat]
    rfl
  · have hbyte := byte.toNat_lt
    have hvalue : 16 * (byte.toNat / 16) + byte.toNat % 16 = byte.toNat := Nat.div_add_mod _ _
    have hhigh : hexValue? (hexDigit (byte.toNat / 16)) = some (byte.toNat / 16) :=
      hexValue?_hexDigit (by omega)
    have hlow : hexValue? (hexDigit (byte.toNat % 16)) = some (byte.toNat % 16) :=
      hexValue?_hexDigit (by omega)
    simp [step, plain, hhigh, hlow, hexValue?_quote, hvalue, hbyte]

/-- The literal of a byte denotes this byte and no other. -/
theorem readLiteral_byteLiteral (byte : UInt8) : readLiteral (byteLiteral byte) = some [byte] := by
  rw [readLiteral, byteLiteral, List.cons_append, List.foldlM_cons]
  show (((byteText byte ++ ['"']).foldlM Reader.step (.inside [])).bind _) = _
  rw [Reader.foldlM_step_byteText]
  rfl

/-- Read one by one, the literals of some bytes denote these bytes. -/
theorem map_readLiteral_byteLiteral (content : List UInt8) :
    (content.map byteLiteral).map readLiteral = content.map fun byte => some [byte] := by
  rw [List.map_map]
  exact List.map_congr_left fun byte _ => readLiteral_byteLiteral byte

/-- A digit behind an escape is taken into the number, which is why no two bytes share a literal. -/
example : readLiteral "\"\\x0a1\"".toList = some [0xa1] := by decide

end Piste.Firmware

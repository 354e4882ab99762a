import Mathlib.Tactic.SplitIfs
import Piste.Text.Utf8

/-!
# Decoding what was encoded

Text that is encoded as bytes is found again when these bytes are decoded (`decodeLossy_encode`).
The decoder is followed through the bytes of one character: the leading one (`partsFrom_ofLead`),
and those after it, which add six bits each (`partsFrom_digit`). They leave the character pending
(`partsFrom_owed`), or complete it (`partsFrom_last`).
-/

namespace Piste.Text.Utf8

/-! ## The bytes of one character -/

theorem partsFrom_ofLead {byte : Nat} {pending : Pending} (hbyte : 0x80 ≤ byte ∧ byte < 0x100)
    (hlead : Pending.ofLead byte = some pending) (rest : List UInt8) :
    partsFrom none (UInt8.ofNat byte :: rest) = partsFrom (some pending) rest := by
  have htoNat : (UInt8.ofNat byte).toNat = byte := UInt8.toNat_ofNat_of_lt' hbyte.2
  rw [partsFrom, htoNat, lead, if_neg (by omega), hlead]
  rfl

/-- A byte within the bounds adds six bits. -/
theorem partsFrom_digit {pending : Pending} {digit : Nat} (hdigit : digit < 64)
    (hbounds : pending.low ≤ digit + 128 ∧ digit + 128 ≤ pending.high) (rest : List UInt8) :
    partsFrom (some pending) (UInt8.ofNat (digit + 128) :: rest) =
      if pending.owed ≤ 1 then some (Char.ofNat (pending.value * 64 + digit)) :: partsFrom none rest
      else partsFrom (some ⟨pending.owed - 1, 0x80, 0xBF, pending.value * 64 + digit⟩) rest := by
  have hbyte : digit + 128 < 256 := by omega
  have htoNat : (UInt8.ofNat (digit + 128)).toNat = digit + 128 := UInt8.toNat_ofNat_of_lt' hbyte
  have hbits : (digit + 128) % 64 = digit := by omega
  rw [partsFrom, htoNat, Pending.next, if_pos hbounds, hbits]
  by_cases howed : pending.owed ≤ 1
  · simp [howed]
  · simp [howed]

theorem partsFrom_owed {owed low high value digit : Nat} (howed : 2 ≤ owed) (hdigit : digit < 64)
    (hbounds : low ≤ digit + 128 ∧ digit + 128 ≤ high) (rest : List UInt8) :
    partsFrom (some ⟨owed, low, high, value⟩) (UInt8.ofNat (digit + 128) :: rest) =
      partsFrom (some ⟨owed - 1, 0x80, 0xBF, value * 64 + digit⟩) rest := by
  rw [partsFrom_digit hdigit hbounds, if_neg (Nat.not_le_of_lt howed)]

theorem partsFrom_last {low high value digit : Nat} (hdigit : digit < 64)
    (hbounds : low ≤ digit + 128 ∧ digit + 128 ≤ high) (rest : List UInt8) :
    partsFrom (some ⟨1, low, high, value⟩) (UInt8.ofNat (digit + 128) :: rest) =
      some (Char.ofNat (value * 64 + digit)) :: partsFrom none rest := by
  rw [partsFrom_digit hdigit hbounds, if_pos (Nat.le_refl 1)]

/-- What a character of three bytes begins with. The bounds of the byte after it keep out what has
a shorter form, and the surrogates. -/
theorem exists_ofLead_three {n : Nat} (hlow : 0x800 ≤ n) (hhigh : n ≤ 0xFFFF)
    (hsurrogate : n < 0xD800 ∨ 0xDFFF < n) :
    ∃ low high, Pending.ofLead (n / 4096 % 16 + 224) = some ⟨2, low, high, n / 4096⟩ ∧
      low ≤ n / 64 % 64 + 128 ∧ n / 64 % 64 + 128 ≤ high := by
  have hlead : n / 4096 % 16 + 224 = n / 4096 + 224 := by omega
  rw [hlead, Pending.ofLead, if_neg (by omega)]
  by_cases hfirst : n / 4096 = 0
  · refine ⟨0xA0, 0xBF, ?_, by omega, by omega⟩
    rw [if_pos (by omega), hfirst]
  by_cases hgap : n / 4096 = 13
  · refine ⟨0x80, 0x9F, ?_, by omega, by omega⟩
    rw [if_neg (by omega), if_pos (by omega), hgap]
  · refine ⟨0x80, 0xBF, ?_, by omega, by omega⟩
    rw [if_neg (by omega), if_neg (by omega), if_pos (by omega), Nat.add_sub_cancel]

/-- What a character of four bytes begins with. The bounds of the byte after it keep out what has a
shorter form, and what is beyond the last character. -/
theorem exists_ofLead_four {n : Nat} (hlow : 0x10000 ≤ n) (hhigh : n < 0x110000) :
    ∃ low high, Pending.ofLead (n / 262144 % 8 + 240) = some ⟨3, low, high, n / 262144⟩ ∧
      low ≤ n / 4096 % 64 + 128 ∧ n / 4096 % 64 + 128 ≤ high := by
  have hlead : n / 262144 % 8 + 240 = n / 262144 + 240 := by omega
  rw [hlead, Pending.ofLead, if_neg (by omega), if_neg (by omega), if_neg (by omega),
    if_neg (by omega)]
  by_cases hfirst : n / 262144 = 0
  · refine ⟨0x90, 0xBF, ?_, by omega, by omega⟩
    rw [if_pos (by omega), hfirst]
  by_cases hlast : n / 262144 = 4
  · refine ⟨0x80, 0x8F, ?_, by omega, by omega⟩
    rw [if_neg (by omega), if_pos (by omega), hlast]
  · refine ⟨0x80, 0xBF, ?_, by omega, by omega⟩
    rw [if_neg (by omega), if_neg (by omega), if_pos (by omega), Nat.add_sub_cancel]

/-- The bytes of a character are decoded to this character, whatever comes after them. -/
theorem partsFrom_utf8EncodeChar (c : Char) (rest : List UInt8) :
    partsFrom none (String.utf8EncodeChar c ++ rest) = some c :: partsFrom none rest := by
  have hchar : ∀ n, n = c.val.toNat → some (Char.ofNat n) = some c := by
    intro n hn
    rw [hn]
    exact congrArg some (Char.ofNat_toNat c)
  have hvalid : c.val.toNat < 0xD800 ∨ 0xDFFF < c.val.toNat ∧ c.val.toNat < 0x110000 := c.valid
  simp only [String.utf8EncodeChar]
  generalize c.val.toNat = n at hchar hvalid
  split_ifs with hone htwo hthree
  · have hbyte : n < 256 := by omega
    have htoNat : (UInt8.ofNat n).toNat = n := UInt8.toNat_ofNat_of_lt' hbyte
    rw [List.singleton_append, partsFrom, htoNat, lead, if_pos (by omega), ← hchar n rfl]
    rfl
  · have hlead : Pending.ofLead (n / 64 % 32 + 192) = some ⟨1, 0x80, 0xBF, n / 64⟩ := by
      have hbits : n / 64 % 32 + 192 - 192 = n / 64 := by omega
      rw [Pending.ofLead, if_pos (by omega), hbits]
    simp only [List.cons_append, List.nil_append]
    rw [partsFrom_ofLead (by omega) hlead, partsFrom_last (by omega) (by omega),
      hchar _ (by omega)]
  · obtain ⟨low, high, hlead, hbounds⟩ := exists_ofLead_three (by omega) hthree (by omega)
    simp only [List.cons_append, List.nil_append]
    rw [partsFrom_ofLead (by omega) hlead, partsFrom_owed (by omega) (by omega) hbounds,
      partsFrom_last (by omega) (by omega), hchar _ (by omega)]
  · obtain ⟨low, high, hlead, hbounds⟩ := exists_ofLead_four (n := n) (by omega) (by omega)
    simp only [List.cons_append, List.nil_append]
    rw [partsFrom_ofLead (by omega) hlead, partsFrom_owed (by omega) (by omega) hbounds,
      partsFrom_owed (by omega) (by omega) (by omega), partsFrom_last (by omega) (by omega),
      hchar _ (by omega)]

/-! ## Texts -/

theorem parts_flatMap_utf8EncodeChar (cs : List Char) :
    parts (cs.flatMap String.utf8EncodeChar) = cs.map some := by
  unfold parts
  induction cs with
  | nil => rfl
  | cons c cs ih => rw [List.flatMap_cons, partsFrom_utf8EncodeChar, ih, List.map_cons]

/-- Decoding is the inverse of encoding: nothing of a text is replaced. -/
theorem decodeLossy_encode (text : String) : decodeLossy (encode text) = text.toList := by
  rw [decodeLossy, encode, parts_flatMap_utf8EncodeChar, List.map_map]
  exact List.map_id _

theorem mapM_id_map_some (cs : List Char) : (cs.map some).mapM id = some cs := by
  induction cs with
  | nil => rfl
  | cons c cs ih =>
    rw [List.map_cons, List.mapM_cons, ih]
    rfl

/-- The bytes of a text are well-formed. -/
theorem decode?_encode (text : String) : decode? (encode text) = some text := by
  rw [decode?, encode, parts_flatMap_utf8EncodeChar, mapM_id_map_some, Option.map_some,
    String.ofList_toList]

end Piste.Text.Utf8

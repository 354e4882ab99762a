import Mathlib.Data.String.Basic
import Mathlib.Tactic.SplitIfs
import Piste.Text.Utf8

/-!
# The order of encoded text

UTF-8 keeps the order of texts: they compare like their bytes.

* `cons_lt_cons_of_le` compares two sequences of bytes that are given as numbers. The first byte
  decides, or leaves it to what follows.
* `utf8EncodeChar_append_lt` is the order of two characters. The leading byte of the longer encoding
  is the greater one; encodings of one length are the digits of the character in base 64.
* `encode_lt_encode_iff` is the order of texts.
-/

namespace Piste.Text.Utf8

/-! ## Characters -/

/-- Bytes compare as numbers, and what follows counts only behind equal bytes. -/
theorem cons_lt_cons_of_le {a b : Nat} {rest rest' : List UInt8} (hb : b < 256) (hle : a ≤ b)
    (hrest : a = b → rest < rest') : UInt8.ofNat a :: rest < UInt8.ofNat b :: rest' := by
  have htoNat : (UInt8.ofNat a).toNat = a :=
    UInt8.toNat_ofNat_of_lt' (Nat.lt_of_le_of_lt hle hb)
  have htoNat' : (UInt8.ofNat b).toNat = b := UInt8.toNat_ofNat_of_lt' hb
  rw [List.cons_lt_cons_iff, UInt8.lt_iff_toNat_lt, htoNat, htoNat']
  rcases Nat.lt_or_eq_of_le hle with hlt | heq
  · exact Or.inl hlt
  · exact Or.inr ⟨by rw [heq], hrest heq⟩

/-- The bytes of a smaller character come first, whatever follows. -/
theorem utf8EncodeChar_append_lt {c d : Char} (h : c < d) (rest rest' : List UInt8) :
    String.utf8EncodeChar c ++ rest < String.utf8EncodeChar d ++ rest' := by
  have hval : c.val.toNat < d.val.toNat := UInt32.lt_iff_toNat_lt.1 (Char.lt_def.1 h)
  have hvalid : d.val.toNat < 0x110000 := by
    rcases d.valid with hlow | hhigh
    · show d.val.toNat < 0x110000
      omega
    · exact hhigh.2
  simp only [String.utf8EncodeChar]
  generalize c.val.toNat = m at hval
  generalize d.val.toNat = n at hval hvalid
  -- The encoding of the smaller character is not the longer one.
  split_ifs <;> simp only [List.cons_append, List.nil_append] <;> try omega
  · exact cons_lt_cons_of_le (by omega) (by omega) (by omega)
  · exact cons_lt_cons_of_le (by omega) (by omega) (by omega)
  · exact cons_lt_cons_of_le (by omega) (by omega) (by omega)
  · exact cons_lt_cons_of_le (by omega) (by omega) (by omega)
  · refine cons_lt_cons_of_le (by omega) (by omega) fun hlead => ?_
    exact cons_lt_cons_of_le (by omega) (by omega) (by omega)
  · exact cons_lt_cons_of_le (by omega) (by omega) (by omega)
  · exact cons_lt_cons_of_le (by omega) (by omega) (by omega)
  · refine cons_lt_cons_of_le (by omega) (by omega) fun hlead => ?_
    refine cons_lt_cons_of_le (by omega) (by omega) fun hsecond => ?_
    exact cons_lt_cons_of_le (by omega) (by omega) (by omega)
  · exact cons_lt_cons_of_le (by omega) (by omega) (by omega)
  · refine cons_lt_cons_of_le (by omega) (by omega) fun hlead => ?_
    refine cons_lt_cons_of_le (by omega) (by omega) fun hsecond => ?_
    refine cons_lt_cons_of_le (by omega) (by omega) fun hthird => ?_
    exact cons_lt_cons_of_le (by omega) (by omega) (by omega)

/-! ## Texts -/

theorem flatMap_utf8EncodeChar_lt {cs ds : List Char} (h : cs < ds) :
    cs.flatMap String.utf8EncodeChar < ds.flatMap String.utf8EncodeChar := by
  induction cs generalizing ds with
  | nil =>
    cases ds with
    | nil => exact absurd h (List.lt_irrefl [])
    | cons d ds =>
      obtain ⟨byte, bytes, hbytes⟩ :=
        List.exists_cons_of_ne_nil (String.utf8EncodeChar_ne_nil (c := d))
      rw [List.flatMap_nil, List.flatMap_cons, hbytes]
      exact List.nil_lt_cons _ _
  | cons c cs ih =>
    cases ds with
    | nil => exact absurd h (List.not_lt_nil _)
    | cons d ds =>
      rw [List.flatMap_cons, List.flatMap_cons]
      rcases List.cons_lt_cons_iff.1 h with hlt | ⟨heq, hrest⟩
      · exact utf8EncodeChar_append_lt hlt _ _
      · rw [heq]
        exact List.append_left_lt (ih hrest)

/-- Texts are in the order of their bytes. -/
theorem encode_lt_encode_iff {s t : String} : encode s < encode t ↔ s < t := by
  constructor
  · intro h
    rcases lt_trichotomy s t with hlt | heq | hgt
    · exact hlt
    · rw [heq] at h
      exact absurd h (List.lt_irrefl _)
    · have hgt' : encode t < encode s :=
        flatMap_utf8EncodeChar_lt (String.lt_iff_toList_lt.1 hgt)
      exact absurd (List.lt_trans h hgt') (List.lt_irrefl _)
  · intro h
    exact flatMap_utf8EncodeChar_lt (String.lt_iff_toList_lt.1 h)

end Piste.Text.Utf8

/-!
# UTF-8

Encoding of text as bytes and decoding of bytes as text. Decoding goes byte by byte: a state says
which range the next byte has to lie in. The longest start of a character that the next byte cannot
continue is one ill-formed part.
-/

namespace Piste.Text.Utf8

/-- A character of which `owed` bytes are still to come, the next one between `low` and `high`. -/
structure Pending where
  owed : Nat
  low : Nat
  high : Nat
  value : Nat

/-- The character a leading byte begins, or `none` if no character begins with it. -/
def Pending.ofLead (byte : Nat) : Option Pending :=
  if 0xC2 ≤ byte ∧ byte ≤ 0xDF then some ⟨1, 0x80, 0xBF, byte - 0xC0⟩
  else if byte = 0xE0 then some ⟨2, 0xA0, 0xBF, 0⟩
  else if byte = 0xED then some ⟨2, 0x80, 0x9F, 13⟩
  else if 0xE1 ≤ byte ∧ byte ≤ 0xEF then some ⟨2, 0x80, 0xBF, byte - 0xE0⟩
  else if byte = 0xF0 then some ⟨3, 0x90, 0xBF, 0⟩
  else if byte = 0xF4 then some ⟨3, 0x80, 0x8F, 4⟩
  else if 0xF1 ≤ byte ∧ byte ≤ 0xF3 then some ⟨3, 0x80, 0xBF, byte - 0xF0⟩
  else none

/-- What a byte between two characters gives: a part that is complete, and a character begun. -/
def lead (byte : Nat) : List (Option Char) × Option Pending :=
  if byte < 0x80 then ([some (Char.ofNat byte)], none)
  else match Pending.ofLead byte with
    | some pending => ([], some pending)
    | none => ([none], none)

/-- What a byte gives after the start of a character. -/
def Pending.next (pending : Pending) (byte : Nat) : List (Option Char) × Option Pending :=
  if pending.low ≤ byte ∧ byte ≤ pending.high then
    let value := pending.value * 64 + byte % 64
    if pending.owed ≤ 1 then ([some (Char.ofNat value)], none)
    else ([], some ⟨pending.owed - 1, 0x80, 0xBF, value⟩)
  else
    let (parts, begun) := lead byte
    (none :: parts, begun)

/-- The parts of a byte sequence after the start of a character, if one is pending. -/
def partsFrom : Option Pending → List UInt8 → List (Option Char)
  | none, [] => []
  | some _, [] => [none]
  | none, byte :: rest =>
    let (parts, begun) := lead byte.toNat
    parts ++ partsFrom begun rest
  | some pending, byte :: rest =>
    let (parts, begun) := pending.next byte.toNat
    parts ++ partsFrom begun rest

/-- The characters of a byte sequence, with `none` for every ill-formed part. -/
def parts (bytes : List UInt8) : List (Option Char) :=
  partsFrom none bytes

/-- The text of a byte sequence, with U+FFFD for every ill-formed part. -/
def decodeLossy (bytes : List UInt8) : List Char :=
  (parts bytes).map (·.getD (Char.ofNat 0xFFFD))

/-- The text of a well-formed byte sequence. -/
def decode? (bytes : List UInt8) : Option String :=
  ((parts bytes).mapM id).map String.ofList

/-- The bytes of a text. -/
def encode (text : String) : List UInt8 :=
  text.toList.flatMap String.utf8EncodeChar

end Piste.Text.Utf8

/-!
# UTF-8

What a program writes is taken for UTF-8. Bytes that are not part of a character are replaced, the
longest start of a character at a time. The bytes are read one after another by `Decoder.read`.
-/

namespace BuildingModel.Text

/-- The range of the second byte after a first byte of a longer character, with the number of bytes
that follow the first and the bits that the first contributes. -/
def leadByte? (b : Nat) : Option (Nat × Nat × Nat × Nat) :=
  if 0xC2 ≤ b && b ≤ 0xDF then some (0x80, 0xBF, 1, b - 0xC0)
  else if b == 0xE0 then some (0xA0, 0xBF, 2, 0)
  else if b == 0xED then some (0x80, 0x9F, 2, 0xD)
  else if 0xE1 ≤ b && b ≤ 0xEF then some (0x80, 0xBF, 2, b - 0xE0)
  else if b == 0xF0 then some (0x90, 0xBF, 3, 0)
  else if 0xF1 ≤ b && b ≤ 0xF3 then some (0x80, 0xBF, 3, b - 0xF0)
  else if b == 0xF4 then some (0x80, 0x8F, 3, 4)
  else none

/-- A character that is being read: the range of its next byte, how many bytes are still to come,
and the bits so far. -/
structure PartialChar where
  /-- The least next byte. -/
  low : Nat
  /-- The greatest next byte. -/
  high : Nat
  /-- How many bytes are to come. -/
  missing : Nat
  /-- The bits so far. -/
  bits : Nat

/-- The bytes that have been read, as text. -/
structure Decoder where
  /-- The text before the character that is being read. -/
  text : String := ""
  /-- The character that is being read, if one is. -/
  started : Option PartialChar := none

namespace Decoder

/-- What stands for bytes that are no character. -/
def replacement : Char := '\uFFFD'

/-- Reads the first byte of a character. -/
def first (text : String) (b : Nat) : Decoder :=
  if b < 0x80 then ⟨text.push (Char.ofNat b), none⟩
  else
    match leadByte? b with
    | some (low, high, missing, bits) => ⟨text, some ⟨low, high, missing, bits⟩⟩
    | none => ⟨text.push replacement, none⟩

/-- Reads a byte. -/
def read (d : Decoder) (byte : UInt8) : Decoder :=
  let b := byte.toNat
  match d with
  | ⟨text, none⟩ => first text b
  | ⟨text, some p⟩ =>
    if p.low ≤ b && b ≤ p.high then
      let bits := p.bits * 64 + (b - 0x80)
      if p.missing ≤ 1 then ⟨text.push (Char.ofNat bits), none⟩
      else ⟨text, some ⟨0x80, 0xBF, p.missing - 1, bits⟩⟩
    else first (text.push replacement) b

/-- The text of all that has been read. -/
def finish : Decoder → String
  | ⟨text, none⟩ => text
  | ⟨text, some _⟩ => text.push replacement

end Decoder

/-- The text of bytes, with what is not UTF-8 replaced. -/
def decodeUtf8 (bytes : List UInt8) : String :=
  (bytes.foldl Decoder.read {}).finish

end BuildingModel.Text
